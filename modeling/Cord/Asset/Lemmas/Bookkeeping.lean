import Cord.Asset.Lemmas.Issuance

/-!
This module contains the agreement of the list of instances and of the counter of an asset with its
instances. An identifier that is issued again advances the list and the counter, but no instance is
added.
-/

open Frame Identifier
open ChainSpace (Client)

namespace Asset

variable {T : Config} {k k' : AssetKind} {p p' : Storage T} {s s' : State T} {origin : T.Origin}
  {call : Call T} {assetId instanceId id : T.Ss58Identifier} {a : AssetOf T k} {i j : InstanceOf T k}
  {distribution : DistributionMap T} {lookup : StorageMap T.Hash T.Ss58Identifier}
  {events : List (Event T)}

namespace Storage

def IsInstance (p : Storage T) (assetId instanceId : T.Ss58Identifier) : Prop :=
  ∃ k, ((p.issuanceOf k).get (assetId, instanceId)).isSome = true

def instanceCount (p : Storage T) (assetId : T.Ss58Identifier) : Nat :=
  p.sumInstances (fun _ _ => 1) .plain assetId + p.sumInstances (fun _ _ => 1) .vc assetId

structure Bookkept (p : Storage T) : Prop where
  nodup : ∀ assetId, (p.distributionOf assetId).toList.Nodup
  listed : ∀ assetId instanceId,
    instanceId ∈ (p.distributionOf assetId).toList ↔ p.IsInstance assetId instanceId
  distributed : ∀ assetId, (p.getDistributedQty assetId).toNat = p.instanceCount assetId
  issued : ∀ k assetId asset, (p.assetsOf k).get assetId = some asset →
    asset.assetIssuance.toNat = p.issuedQty k assetId

theorem toNat_getDistributedQty (p : Storage T) (assetId : T.Ss58Identifier)
    : (p.getDistributedQty assetId).toNat = (p.distributionOf assetId).toList.length := by
  unfold getDistributedQty distributionOf StorageMap.getD
  match p.distribution.get assetId with
  | none => rfl
  | some dist => exact toNat_toUInt32_of_le dist.length_le

@[simp]
theorem setRest_distributionOf
    : (p'.setRest p.distribution lookup events).distributionOf assetId = p.distributionOf assetId :=
  rfl

@[simp]
theorem setRest_isInstance
    : (p.setRest distribution lookup events).IsInstance assetId instanceId ↔
        p.IsInstance assetId instanceId := by
  unfold IsInstance
  simp only [setRest_issuanceOf]

@[simp]
theorem setRest_instanceCount
    : (p.setRest distribution lookup events).instanceCount assetId = p.instanceCount assetId := by
  unfold instanceCount
  simp only [setRest_sumInstances]

@[simp]
theorem insertAsset_isInstance {id' : T.Ss58Identifier}
    : (p.insertAsset assetId a).IsInstance id id' ↔ p.IsInstance id id' := by
  unfold IsInstance
  simp only [insertAsset_issuanceOf]

@[simp]
theorem insertAsset_instanceCount : (p.insertAsset assetId a).instanceCount id = p.instanceCount id := by
  unfold instanceCount
  simp only [insertAsset_sumInstances]

theorem insertInstance_isInstance {id' : T.Ss58Identifier}
    : (p.insertInstance assetId instanceId i).IsInstance id id' ↔
        (id = assetId ∧ id' = instanceId) ∨ p.IsInstance id id' := by
  by_cases heq : id = assetId ∧ id' = instanceId
  . obtain ⟨rfl, rfl⟩ := heq
    apply iff_of_true _ (.inl ⟨rfl, rfl⟩)
    refine ⟨k, ?_⟩
    rw [insertInstance_issuanceOf, StorageMap.get_insert_self]
    rfl
  . unfold IsInstance
    rw [or_iff_right heq]
    apply exists_congr
    intro k'
    rw [get_insertInstance_of_ne]
    rintro ⟨_, h⟩
    exact heq h

theorem insertInstance_instanceCount_of_some
    (h : (p.issuanceOf k).get (assetId, instanceId) = some j)
    : (p.insertInstance assetId instanceId i).instanceCount id = p.instanceCount id := by
  unfold instanceCount
  rw [insertInstance_sumInstances_of_some (i := i) h rfl,
    insertInstance_sumInstances_of_some (i := i) h rfl]

theorem insertInstance_instanceCount_of_none
    (h : (p.issuanceOf k).get (assetId, instanceId) = none)
    : (p.insertInstance assetId instanceId i).instanceCount id =
        p.instanceCount id + if id = assetId then 1 else 0 := by
  unfold instanceCount
  rw [insertInstance_sumInstances_of_none h, insertInstance_sumInstances_of_none h]
  cases k with
  | plain => simp [Nat.add_right_comm]
  | vc => simp [Nat.add_assoc]

theorem Bookkept.insertAsset (h : p.Bookkept) (ha : a.assetIssuance.toNat = p.issuedQty k assetId)
    : ((p.insertAsset assetId a).setRest p.distribution lookup events).Bookkept := by
  constructor
  . intro id
    rw [setRest_distributionOf]
    exact h.nodup id
  . intro id id'
    rw [setRest_distributionOf, setRest_isInstance, insertAsset_isInstance]
    exact h.listed id id'
  . intro id
    rw [toNat_getDistributedQty, setRest_distributionOf, setRest_instanceCount,
      insertAsset_instanceCount, ← toNat_getDistributedQty]
    exact h.distributed id
  . simp only [setRest_assetsOf, setRest_issuedQty, insertAsset_issuedQty]
    apply forall_insertAsset
    . exact ha
    . intro k' id b _ hget
      exact h.issued _ _ _ hget

theorem Bookkept.create (h : p.Bookkept) (hanchored : p.Anchored)
    (hfresh : (p.assetsOf k).get assetId = none) (hunissued : a.assetIssuance = 0)
    : ((p.insertAsset assetId a).setRest p.distribution lookup events).Bookkept := by
  apply h.insertAsset
  rw [hunissued, hanchored.issuedQty_eq_zero hfresh]
  rfl

theorem Bookkept.updateInstance (h : p.Bookkept)
    (hget : (p.issuanceOf k).get (assetId, instanceId) = some j) (hqty : i.assetQty = j.assetQty)
    : ((p.insertInstance assetId instanceId i).setRest p.distribution lookup events).Bookkept := by
  constructor
  . intro id
    rw [setRest_distributionOf]
    exact h.nodup id
  . intro id id'
    rw [setRest_distributionOf, setRest_isInstance, insertInstance_isInstance, h.listed]
    constructor
    . exact Or.inr
    . rintro (⟨rfl, rfl⟩ | hinst)
      . exact ⟨k, by rw [hget]; rfl⟩
      . exact hinst
  . intro id
    rw [toNat_getDistributedQty, setRest_distributionOf, setRest_instanceCount,
      insertInstance_instanceCount_of_some hget, ← toNat_getDistributedQty]
    exact h.distributed id
  . intro k' id b hgetb
    rw [setRest_assetsOf, insertInstance_assetsOf] at hgetb
    rw [setRest_issuedQty]
    unfold issuedQty
    rw [insertInstance_sumInstances_of_some hget (by rw [hqty])]
    exact h.issued _ _ _ hgetb

theorem not_isInstance_iff
    : ¬ p.IsInstance assetId instanceId ↔ ∀ k, (p.issuanceOf k).get (assetId, instanceId) = none := by
  simp [IsInstance]

section Issue

variable {dist : BoundedVec T.Ss58Identifier T.maxAssetDistribution.toNat} {n : UInt64}

theorem setRest_distributionOf_insert
    : (p'.setRest (p.distribution.insert assetId dist) lookup events).distributionOf id =
        if id = assetId then dist else p.distributionOf id := by
  apply StorageMap.getD_insert

theorem Bookkept.of_issue (h : p.Bookkept) (hget : (p.assetsOf k).get assetId = some a)
    (hpush : (p.distributionOf assetId).tryPush instanceId = some dist) (hqty : i.assetQty = n)
    (h' : (((p.insertInstance assetId instanceId i).insertAsset assetId
        (a.withIssuance (saturatingAdd a.assetIssuance n))).setRest
      (p.distribution.insert assetId dist) lookup events).Bookkept)
    : (∀ k', (p.issuanceOf k').get (assetId, instanceId) = none) ∧
        a.assetIssuance.toNat + n.toNat < 2 ^ 64 := by
  subst hqty
  obtain ⟨hdist, _⟩ := BoundedVec.tryPush_eq_some hpush
  have hfresh : ∀ k', (p.issuanceOf k').get (assetId, instanceId) = none := by
    rw [← not_isInstance_iff, ← h.listed]
    have hnodup := h'.nodup assetId
    rw [setRest_distributionOf_insert, if_pos rfl, hdist, List.nodup_append] at hnodup
    intro hmem
    exact hnodup.2.2 _ hmem _ (List.mem_singleton_self _) rfl
  refine ⟨hfresh, ?_⟩
  have hissued := h'.issued k assetId (a.withIssuance (saturatingAdd a.assetIssuance i.assetQty))
    (by rw [setRest_assetsOf, insertAsset_assetsOf, StorageMap.get_insert_self])
  have hsum : (p.insertInstance assetId instanceId i).issuedQty k assetId =
      p.issuedQty k assetId + i.assetQty.toNat := by
    unfold issuedQty
    rw [insertInstance_sumInstances_of_none (hfresh k), if_pos ⟨rfl, rfl⟩]
  have hcounter := h.issued k assetId a hget
  rw [setRest_issuedQty, insertAsset_issuedQty, hsum, withIssuance_assetIssuance,
    toNat_saturatingAdd] at hissued
  omega

theorem Bookkept.issue (h : p.Bookkept) (hget : (p.assetsOf k).get assetId = some a)
    (hpush : (p.distributionOf assetId).tryPush instanceId = some dist) (hqty : i.assetQty = n)
    (hfresh : ∀ k', (p.issuanceOf k').get (assetId, instanceId) = none)
    (hfits : a.assetIssuance.toNat + n.toNat < 2 ^ 64)
    : (((p.insertInstance assetId instanceId i).insertAsset assetId
        (a.withIssuance (saturatingAdd a.assetIssuance n))).setRest
      (p.distribution.insert assetId dist) lookup events).Bookkept := by
  subst hqty
  obtain ⟨hdist, _⟩ := BoundedVec.tryPush_eq_some hpush
  constructor
  . intro id
    rw [setRest_distributionOf_insert]
    split
    . rw [hdist, List.nodup_append]
      refine ⟨h.nodup assetId, List.nodup_singleton _, ?_⟩
      rintro id' hmem id'' hid rfl
      rw [List.mem_singleton] at hid
      rw [hid, h.listed] at hmem
      exact not_isInstance_iff.mpr hfresh hmem
    . exact h.nodup id
  . intro id id'
    rw [setRest_distributionOf_insert, setRest_isInstance, insertAsset_isInstance,
      insertInstance_isInstance, ← h.listed]
    split
    . next heq =>
      rw [hdist, List.mem_append, List.mem_singleton, heq]
      simp [or_comm]
    . next hne => simp [hne]
  . intro id
    have hcount := h.distributed id
    rw [toNat_getDistributedQty] at hcount ⊢
    rw [setRest_distributionOf_insert, setRest_instanceCount, insertAsset_instanceCount,
      insertInstance_instanceCount_of_none (hfresh k), ← hcount]
    split
    . next heq => rw [hdist, heq, List.length_append, List.length_singleton]
    . rfl
  . simp only [setRest_assetsOf, setRest_issuedQty, insertAsset_issuedQty]
    apply forall_insertAsset
    . have hcounter := h.issued k assetId a hget
      unfold issuedQty at hcounter ⊢
      rw [insertInstance_sumInstances_of_none (hfresh k), if_pos ⟨rfl, rfl⟩,
        withIssuance_assetIssuance, toNat_saturatingAdd]
      omega
    . intro k' id b hne hgetb
      rw [insertInstance_assetsOf] at hgetb
      unfold issuedQty
      rw [insertInstance_sumInstances_of_none (hfresh k), if_neg hne]
      exact h.issued _ _ _ hgetb

end Issue

end Storage

def Accounted (s : State T) (origin : T.Origin) (call : Call T) : Prop :=
  -- What is issued has an identifier that no instance of the asset has, of either kind, and its
  -- quantity fits into the counter of the asset.
  call.OnIssue fun k entry digest authorization =>
    (∀ id ∈ derivedInstance s origin entry digest authorization,
      ∀ k', (s.pallet.issuanceOf k').get (entry.assetId, id) = none) ∧ s.pallet.Fits k entry

theorem bookkept_effect_iff (hanchored : s.pallet.Anchored) (h : s.pallet.Bookkept)
    (he : Effect s origin call p') : p'.Bookkept ↔ Accounted s origin call := by
  unfold Accounted
  cases he with
  | create fresh unissued distribution_eq =>
    subst distribution_eq
    exact iff_of_true (h.create hanchored fresh unissued) trivial
  | vcCreate fresh unissued distribution_eq =>
    subst distribution_eq
    exact iff_of_true (h.create hanchored fresh unissued) trivial
  | @issue k entry digest authorization instanceId issuer asset createdAt dist lookup events get limit
      derived push =>
    simp only [onIssue_issueOf, Storage.Fits, derived, get, Option.mem_def, Option.some.injEq,
      forall_eq']
    constructor
    . intro h'
      exact h.of_issue get push (issued_assetQty _ _ _ _ _ _) h'
    . rintro ⟨hfresh, hfits⟩
      exact h.issue get push (issued_assetQty _ _ _ _ _ _) hfresh hfits
  | transfer get caller active distribution_eq =>
    subst distribution_eq
    apply iff_of_true _ onIssue_transferOf
    exact h.updateInstance get (withOwner_assetQty _ _ _ _)
  | instanceStatus getAsset caller get distribution_eq =>
    subst distribution_eq
    apply iff_of_true _ onIssue_statusChangeOf
    exact h.updateInstance get (instance_withStatus_assetQty _ _)
  | assetStatus get distribution_eq =>
    subst distribution_eq
    apply iff_of_true _ onIssue_statusChangeOf
    apply h.insertAsset
    rw [withStatus_assetIssuance]
    exact h.issued _ _ _ get

theorem genesis_sumInstances {weight : (k : AssetKind) → InstanceOf T k → Nat}
    : (State.genesis T).pallet.sumInstances weight k id = 0 := by
  unfold Storage.sumInstances
  rw [Storage.genesis_issuanceOf]
  rfl

theorem genesis_bookkept : (State.genesis T).pallet.Bookkept := by
  constructor
  . intro id
    exact List.nodup_nil
  . intro id id'
    apply iff_of_false
    . exact List.not_mem_nil
    . rw [Storage.not_isInstance_iff]
      intro k
      rw [Storage.genesis_issuanceOf, StorageMap.get_empty]
  . intro id
    unfold Storage.instanceCount
    rw [genesis_sumInstances, genesis_sumInstances]
    rfl
  . intro k id asset hget
    rw [Storage.genesis_assetsOf, StorageMap.get_empty] at hget
    cases hget

/--
The list and the counter of every asset agree with its instances in every state of exactly those runs
that issue every identifier once and never more than the counter can hold.
-/
theorem run_bookkept_iff (exts : List (Extrinsic T))
    : (machine T).Always (fun s => s.pallet.Bookkept) (State.genesis T) exts ↔
        (machine T).Meets (Client.Extrinsic.Meets Accounted) (State.genesis T) exts := by
  apply Client.always_iff_meets (J := Storage.Anchored)
  . intro s origin call s' hs h
    exact hs.effect (dispatch_effect h)
  . intro s origin call s' hanchored hs h
    exact bookkept_effect_iff hanchored hs (dispatch_effect h)
  . exact Storage.genesis_anchored
  . exact genesis_bookkept

section Plain

def issueAgain : List (Extrinsic .plain) :=
  plainSetup ++ [plainCreate 5 20, plainIssue 20 2 2 30, plainIssue 20 2 2 30]

theorem issueAgain_not_bookkept
    : ¬ ∀ exts : List (Extrinsic .plain),
        ((machine .plain).run (State.genesis .plain) exts).pallet.Bookkept := by
  intro h
  have hnodup := (h issueAgain).nodup (plainAsset 20)
  revert hnodup
  decide +kernel

end Plain

end Asset
