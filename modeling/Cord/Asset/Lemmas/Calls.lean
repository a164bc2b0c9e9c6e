import Cord.Asset.Impl.Calls
import Cord.ChainSpace.Lemmas.Client

/-!
This module contains what a successful call of the asset pallet has done to its storage. Later
modules are case analyses over it.
-/

open Frame Identifier
open ChainSpace (Client)
open ChainSpace.Client (getPallet_iff modifyPallet_iff blockNumber_iff updateActivity_iff
  ensureAuthorizationOrigin_iff)

namespace Asset

variable {T : Config} {k k' : AssetKind}

section Records

variable (a : AssetOf T k) (i : InstanceOf T k)

@[simp]
theorem withIssuance_assetQty (n : UInt64) : (a.withIssuance n).assetQty = a.assetQty := by
  cases k <;> rfl

@[simp]
theorem withIssuance_assetIssuance (n : UInt64) : (a.withIssuance n).assetIssuance = n := by
  cases k <;> rfl

@[simp]
theorem withStatus_assetQty (status : AssetStatusOf)
    : (a.withStatus status).assetQty = a.assetQty := by
  cases k <;> rfl

@[simp]
theorem withStatus_assetIssuance (status : AssetStatusOf)
    : (a.withStatus status).assetIssuance = a.assetIssuance := by
  cases k <;> rfl

@[simp]
theorem issued_assetQty (entry : AssetIssuanceEntry T) (qty : UInt64) (digest : T.Hash)
    (issuer : T.SpaceCreatorId) (createdAt : UInt32)
    : (InstanceOf.issued a entry qty digest issuer createdAt).assetQty = qty := by
  cases k <;> rfl

@[simp]
theorem withOwner_assetQty (owner : T.SpaceCreatorId) (digest : T.Hash) (createdAt : UInt32)
    : (i.withOwner owner digest createdAt).assetQty = i.assetQty := by
  cases k <;> rfl

@[simp]
theorem instance_withStatus_assetQty (status : AssetStatusOf)
    : (i.withStatus status).assetQty = i.assetQty := by
  cases k <;> rfl

@[simp]
theorem instance_withStatus_owner (status : AssetStatusOf)
    : (i.withStatus status).assetInstanceOwner = i.assetInstanceOwner := by
  cases k <;> rfl

@[simp]
theorem instance_withStatus_status (status : AssetStatusOf)
    : (i.withStatus status).assetInstanceStatus = status := by
  cases k <;> rfl

end Records

abbrev DistributionMap (T : Config) :=
  StorageMap T.Ss58Identifier (BoundedVec T.Ss58Identifier T.maxAssetDistribution.toNat)

namespace Storage

variable (p : Storage T) (assetId instanceId : T.Ss58Identifier) (a : AssetOf T k)
  (i : InstanceOf T k)

def setRest (p : Storage T) (distribution : DistributionMap T)
    (assetLookup : StorageMap T.Hash T.Ss58Identifier) (events : List (Event T)) : Storage T :=
  { p with distribution, assetLookup, events }

@[simp]
theorem insertAsset_assetsOf
    : (p.insertAsset assetId a).assetsOf k = (p.assetsOf k).insert assetId a := by
  cases k <;> rfl

@[simp]
theorem insertAsset_assetsOf_of_ne (h : k' ≠ k)
    : (p.insertAsset assetId a).assetsOf k' = p.assetsOf k' := by
  cases k with
  | plain =>
    cases k' with
    | plain => exact absurd rfl h
    | vc => rfl
  | vc =>
    cases k' with
    | plain => rfl
    | vc => exact absurd rfl h

@[simp]
theorem insertAsset_issuanceOf : (p.insertAsset assetId a).issuanceOf k' = p.issuanceOf k' := by
  cases k <;> cases k' <;> rfl

@[simp]
theorem insertAsset_distribution : (p.insertAsset assetId a).distribution = p.distribution := by
  cases k <;> rfl

@[simp]
theorem insertInstance_distribution
    : (p.insertInstance assetId instanceId i).distribution = p.distribution := by
  cases k <;> rfl

@[simp]
theorem insertInstance_assetsOf
    : (p.insertInstance assetId instanceId i).assetsOf k' = p.assetsOf k' := by
  cases k <;> cases k' <;> rfl

@[simp]
theorem insertInstance_issuanceOf
    : (p.insertInstance assetId instanceId i).issuanceOf k =
        (p.issuanceOf k).insert (assetId, instanceId) i := by
  cases k <;> rfl

@[simp]
theorem insertInstance_issuanceOf_of_ne (h : k' ≠ k)
    : (p.insertInstance assetId instanceId i).issuanceOf k' = p.issuanceOf k' := by
  cases k with
  | plain =>
    cases k' with
    | plain => exact absurd rfl h
    | vc => rfl
  | vc =>
    cases k' with
    | plain => rfl
    | vc => exact absurd rfl h

theorem get_insertAsset_of_ne {id : T.Ss58Identifier} (h : ¬ (k' = k ∧ id = assetId))
    : ((p.insertAsset assetId a).assetsOf k').get id = (p.assetsOf k').get id := by
  obtain rfl | hk := eq_or_ne k' k
  . rw [insertAsset_assetsOf, StorageMap.get_insert_of_ne]
    intro heq
    exact h ⟨rfl, heq⟩
  . rw [insertAsset_assetsOf_of_ne _ _ _ hk]

theorem get_insertInstance_of_ne {id id' : T.Ss58Identifier}
    (h : ¬ (k' = k ∧ id = assetId ∧ id' = instanceId))
    : ((p.insertInstance assetId instanceId i).issuanceOf k').get (id, id') =
        (p.issuanceOf k').get (id, id') := by
  obtain rfl | hk := eq_or_ne k' k
  . rw [insertInstance_issuanceOf, StorageMap.get_insert_of_ne]
    intro heq
    injection heq with h1 h2
    exact h ⟨rfl, h1, h2⟩
  . rw [insertInstance_issuanceOf_of_ne _ _ _ _ hk]

theorem forall_insertAsset {P : (k : AssetKind) → T.Ss58Identifier → AssetOf T k → Prop}
    (hself : P k assetId a)
    (hother : ∀ k' id b, ¬ (k' = k ∧ id = assetId) → (p.assetsOf k').get id = some b → P k' id b)
    : ∀ k' id b, ((p.insertAsset assetId a).assetsOf k').get id = some b → P k' id b := by
  intro k' id b hget
  by_cases h : k' = k ∧ id = assetId
  . obtain ⟨rfl, rfl⟩ := h
    rw [insertAsset_assetsOf, StorageMap.get_insert_self] at hget
    injection hget with hget
    rw [← hget]
    exact hself
  . rw [get_insertAsset_of_ne _ _ _ h] at hget
    exact hother _ _ _ h hget

theorem forall_insertInstance
    {P : (k : AssetKind) → T.Ss58Identifier → T.Ss58Identifier → InstanceOf T k → Prop}
    (hself : P k assetId instanceId i)
    (hother : ∀ k' id id' j, ¬ (k' = k ∧ id = assetId ∧ id' = instanceId) →
      (p.issuanceOf k').get (id, id') = some j → P k' id id' j)
    : ∀ k' id id' j, ((p.insertInstance assetId instanceId i).issuanceOf k').get (id, id') = some j →
        P k' id id' j := by
  intro k' id id' j hget
  by_cases h : k' = k ∧ id = assetId ∧ id' = instanceId
  . obtain ⟨rfl, rfl, rfl⟩ := h
    rw [insertInstance_issuanceOf, StorageMap.get_insert_self] at hget
    injection hget with hget
    rw [← hget]
    exact hself
  . rw [get_insertInstance_of_ne _ _ _ _ h] at hget
    exact hother _ _ _ _ h hget

variable {distribution : DistributionMap T} {assetLookup : StorageMap T.Hash T.Ss58Identifier}
  {events : List (Event T)}

@[simp]
theorem setRest_assetsOf
    : (p.setRest distribution assetLookup events).assetsOf k = p.assetsOf k := by
  cases k <;> rfl

@[simp]
theorem setRest_issuanceOf
    : (p.setRest distribution assetLookup events).issuanceOf k = p.issuanceOf k := by
  cases k <;> rfl

@[simp]
theorem genesis_assetsOf : (State.genesis T).pallet.assetsOf k = ∅ := by
  cases k <;> rfl

@[simp]
theorem genesis_issuanceOf : (State.genesis T).pallet.issuanceOf k = ∅ := by
  cases k <;> rfl

end Storage

def Call.issueOf : AssetKind → AssetIssuanceEntry T → T.Hash → T.Ss58Identifier → Call T
  | .plain => .issue
  | .vc => .vcIssue

def Call.transferOf : AssetKind → AssetTransferEntry T → T.Hash → Call T
  | .plain => .transfer
  | .vc => .vcTransfer

def Call.statusChangeOf : AssetKind → T.Ss58Identifier → Option T.Ss58Identifier → AssetStatusOf →
    Call T
  | .plain => .statusChange
  | .vc => .vcStatusChange

def Call.OnIssue (P : AssetKind → AssetIssuanceEntry T → T.Hash → T.Ss58Identifier → Prop)
    : Call T → Prop
  | .issue entry digest authorization => P .plain entry digest authorization
  | .vcIssue entry digest authorization => P .vc entry digest authorization
  | _ => True

section OnIssue

variable {P : AssetKind → AssetIssuanceEntry T → T.Hash → T.Ss58Identifier → Prop}

instance [∀ k entry digest authorization, Decidable (P k entry digest authorization)]
    : (call : Call T) → Decidable (call.OnIssue P)
  | .issue entry digest authorization =>
    inferInstanceAs (Decidable (P .plain entry digest authorization))
  | .vcIssue entry digest authorization =>
    inferInstanceAs (Decidable (P .vc entry digest authorization))
  | .create .. | .transfer .. | .statusChange .. | .vcCreate .. | .vcTransfer ..
  | .vcStatusChange .. => inferInstanceAs (Decidable True)

@[simp]
theorem onIssue_issueOf {entry : AssetIssuanceEntry T} {digest : T.Hash}
    {authorization : T.Ss58Identifier}
    : (Call.issueOf k entry digest authorization).OnIssue P ↔ P k entry digest authorization := by
  cases k <;> rfl

@[simp]
theorem onIssue_transferOf {entry : AssetTransferEntry T} {digest : T.Hash}
    : (Call.transferOf k entry digest).OnIssue P := by
  cases k <;> trivial

@[simp]
theorem onIssue_statusChangeOf {assetId : T.Ss58Identifier} {instanceId : Option T.Ss58Identifier}
    {newStatus : AssetStatusOf}
    : (Call.statusChangeOf k assetId instanceId newStatus).OnIssue P := by
  cases k <;> trivial

end OnIssue

abbrev AssetIssuanceEntry.qty (entry : AssetIssuanceEntry T) : UInt64 :=
  entry.assetIssuanceQty.getD 1

def derivedInstance (s : State T) (origin : T.Origin) (entry : AssetIssuanceEntry T)
    (digest : T.Hash) (authorization : T.Ss58Identifier) : Option T.Ss58Identifier := do
  -- The identifier of the instance that the arguments of `issue` and of `vc_issue` stand for.
  let issuer ← T.ensureAssetOrigin origin
  let auth ← s.chainSpace.authorizations.get authorization
  instanceIdentifier T entry auth.spaceId issuer digest

inductive Effect (s : State T) (origin : T.Origin) : Call T → Storage T → Prop where
  | create {entry : AssetInputEntry T} {digest : T.Hash} {authorization id : T.Ss58Identifier}
    {asset : AssetOf T .plain} {distribution : DistributionMap T}
    {lookup : StorageMap T.Hash T.Ss58Identifier} {events : List (Event T)}
    (fresh : (s.pallet.assetsOf .plain).get id = none) (unissued : asset.assetIssuance = 0)
    (distribution_eq : distribution = s.pallet.distribution)
    : Effect s origin (.create entry digest authorization)
        ((s.pallet.insertAsset id asset).setRest distribution lookup events)
  | vcCreate {assetQty : UInt64} {digest : T.Hash} {authorization id : T.Ss58Identifier}
    {asset : AssetOf T .vc} {distribution : DistributionMap T}
    {lookup : StorageMap T.Hash T.Ss58Identifier} {events : List (Event T)}
    (fresh : (s.pallet.assetsOf .vc).get id = none) (unissued : asset.assetIssuance = 0)
    (distribution_eq : distribution = s.pallet.distribution)
    : Effect s origin (.vcCreate assetQty digest authorization)
        ((s.pallet.insertAsset id asset).setRest distribution lookup events)
  | issue {k : AssetKind} {entry : AssetIssuanceEntry T} {digest : T.Hash}
    {authorization instanceId : T.Ss58Identifier} {issuer : T.SpaceCreatorId}
    {asset : AssetOf T k} {createdAt : UInt32}
    {dist : BoundedVec T.Ss58Identifier T.maxAssetDistribution.toNat}
    {lookup : StorageMap T.Hash T.Ss58Identifier} {events : List (Event T)}
    (get : (s.pallet.assetsOf k).get entry.assetId = some asset)
    (limit : saturatingAdd asset.assetIssuance entry.qty ≤ asset.assetQty)
    (derived : derivedInstance s origin entry digest authorization = some instanceId)
    (push : (s.pallet.distributionOf entry.assetId).tryPush instanceId = some dist)
    : Effect s origin (.issueOf k entry digest authorization)
        (((s.pallet.insertInstance entry.assetId instanceId
            (InstanceOf.issued asset entry entry.qty digest issuer createdAt)).insertAsset
              entry.assetId
              (asset.withIssuance (saturatingAdd asset.assetIssuance entry.qty))).setRest
          (s.pallet.distribution.insert entry.assetId dist) lookup events)
  | transfer {k : AssetKind} {entry : AssetTransferEntry T} {digest : T.Hash}
    {inst : InstanceOf T k} {createdAt : UInt32} {distribution : DistributionMap T}
    {lookup : StorageMap T.Hash T.Ss58Identifier} {events : List (Event T)}
    (get : (s.pallet.issuanceOf k).get (entry.assetId, entry.assetInstanceId) = some inst)
    (caller : T.ensureAssetOrigin origin = some inst.assetInstanceOwner)
    (active : inst.assetInstanceStatus = .active)
    (distribution_eq : distribution = s.pallet.distribution)
    : Effect s origin (.transferOf k entry digest)
        ((s.pallet.insertInstance entry.assetId entry.assetInstanceId
          (inst.withOwner entry.newAssetOwner digest createdAt)).setRest distribution lookup events)
  | instanceStatus {k : AssetKind} {assetId instId : T.Ss58Identifier} {newStatus : AssetStatusOf}
    {asset : AssetOf T k} {inst : InstanceOf T k} {distribution : DistributionMap T}
    {lookup : StorageMap T.Hash T.Ss58Identifier} {events : List (Event T)}
    (getAsset : (s.pallet.assetsOf k).get assetId = some asset)
    (caller : T.ensureAssetOrigin origin = some asset.assetIssuer)
    (get : (s.pallet.issuanceOf k).get (assetId, instId) = some inst)
    (distribution_eq : distribution = s.pallet.distribution)
    : Effect s origin (.statusChangeOf k assetId (some instId) newStatus)
        ((s.pallet.insertInstance assetId instId (inst.withStatus newStatus)).setRest
          distribution lookup events)
  | assetStatus {k : AssetKind} {assetId : T.Ss58Identifier} {newStatus : AssetStatusOf}
    {asset : AssetOf T k} {distribution : DistributionMap T}
    {lookup : StorageMap T.Hash T.Ss58Identifier} {events : List (Event T)}
    (get : (s.pallet.assetsOf k).get assetId = some asset)
    (distribution_eq : distribution = s.pallet.distribution)
    : Effect s origin (.statusChangeOf k assetId none newStatus)
        ((s.pallet.insertAsset assetId (asset.withStatus newStatus)).setRest
          distribution lookup events)

variable {s s' : State T} {origin : T.Origin}

@[simp]
theorem depositEvent_iff {event : Event T} {u : Unit}
    : Succeeds (depositEvent event) s u s'
        ↔
      s' = { s with pallet.events := s.pallet.events ++ [event] } := by
  apply modifyPallet_iff

@[simp]
theorem getAsset_iff {assetId : T.Ss58Identifier} {a : AssetOf T k}
    : Succeeds (getAsset k assetId) s a s'
        ↔
      (s.pallet.assetsOf k).get assetId = some a ∧ s' = s := by
  simp only [getAsset, Succeeds.bind_iff, getPallet_iff, Succeeds.okOr_iff, and_assoc,
    exists_and_left, exists_eq_left]

@[simp]
theorem getInstance_iff {assetId instanceId : T.Ss58Identifier} {i : InstanceOf T k}
    : Succeeds (getInstance k assetId instanceId) s i s'
        ↔
      (s.pallet.issuanceOf k).get (assetId, instanceId) = some i ∧ s' = s := by
  simp only [getInstance, Succeeds.bind_iff, getPallet_iff, Succeeds.okOr_iff, and_assoc,
    exists_and_left, exists_eq_left]

theorem anchorAsset_spec {digest : T.Hash} {spaceId : T.Ss58Identifier}
    {creator : T.SpaceCreatorId} {asset : UInt32 → AssetOf T k}
    (h : Succeeds (anchorAsset k digest spaceId creator asset) s () s')
    : ∃ id createdAt distribution lookup events, (s.pallet.assetsOf k).get id = none ∧
        distribution = s.pallet.distribution ∧
        s'.pallet =
          (s.pallet.insertAsset id (asset createdAt)).setRest distribution lookup events := by
  simp only [anchorAsset, updateActivity, Succeeds.bind_iff, Succeeds.okOr_iff, getPallet_iff,
    Succeeds.ensure_iff, blockNumber_iff, modifyPallet_iff, updateActivity_iff, depositEvent_iff,
    Bool.not_eq_true', StorageMap.containsKey_eq_false_iff, and_assoc, exists_and_left,
    exists_eq_left, exists_const] at h
  obtain ⟨id, _, hfresh, rfl⟩ := h
  exact ⟨id, _, _, _, _, hfresh, Storage.insertAsset_distribution _ _ _, rfl⟩

theorem create_effect {entry : AssetInputEntry T} {digest : T.Hash}
    {authorization : T.Ss58Identifier}
    (h : Succeeds (create origin entry digest authorization) s () s')
    : Effect s origin (.create entry digest authorization) s'.pallet := by
  simp only [create, ensureAuthorizationOrigin, Succeeds.bind_iff, Succeeds.ensureOrigin_iff,
    ensureAuthorizationOrigin_iff, Succeeds.ensure_iff, and_assoc, exists_and_left,
    exists_eq_left, exists_const] at h
  obtain ⟨creator, _, spaceId, _, _, ⟨d, _, _, rfl⟩, _, _, _, hanchor⟩ := h
  obtain ⟨id, createdAt, distribution, lookup, events, hfresh, hdist, heq⟩ :=
    anchorAsset_spec hanchor
  rw [heq]
  exact .create hfresh rfl hdist

theorem vcCreate_effect {assetQty : UInt64} {digest : T.Hash} {authorization : T.Ss58Identifier}
    (h : Succeeds (vcCreate origin assetQty digest authorization) s () s')
    : Effect s origin (.vcCreate assetQty digest authorization) s'.pallet := by
  simp only [vcCreate, ensureAuthorizationOrigin, Succeeds.bind_iff, Succeeds.ensureOrigin_iff,
    ensureAuthorizationOrigin_iff, Succeeds.ensure_iff, and_assoc, exists_and_left,
    exists_eq_left, exists_const] at h
  obtain ⟨creator, _, spaceId, _, _, ⟨d, _, _, rfl⟩, _, hanchor⟩ := h
  obtain ⟨id, createdAt, distribution, lookup, events, hfresh, hdist, heq⟩ :=
    anchorAsset_spec hanchor
  rw [heq]
  exact .vcCreate hfresh rfl hdist

theorem issueOf_effect {entry : AssetIssuanceEntry T} {digest : T.Hash}
    {authorization : T.Ss58Identifier}
    (h : Succeeds (issueOf k origin entry digest authorization) s () s')
    : Effect s origin (.issueOf k entry digest authorization) s'.pallet := by
  simp only [issueOf, ensureAuthorizationOrigin, updateActivity, Succeeds.bind_iff,
    Succeeds.ensureOrigin_iff, ensureAuthorizationOrigin_iff, getAsset_iff, Succeeds.ensure_iff,
    Succeeds.okOr_iff, getPallet_iff, blockNumber_iff, modifyPallet_iff, updateActivity_iff,
    depositEvent_iff, and_assoc, exists_and_left, exists_eq_left, exists_const] at h
  obtain ⟨issuer, hcaller, spaceId, ⟨auth, hauth, _, rfl, _⟩, _, ⟨d, _, _, rfl⟩, asset, hget, _, _,
    hlimit, instanceId, hid, dist, hpush, rfl⟩ := h
  have hderived : derivedInstance s origin entry digest authorization = some instanceId := by
    simp [derivedInstance, hcaller, hauth, hid]
  exact .issue hget hlimit hderived hpush

theorem transferOf_effect {entry : AssetTransferEntry T} {digest : T.Hash}
    (h : Succeeds (transferOf k origin entry digest) s () s')
    : Effect s origin (.transferOf k entry digest) s'.pallet := by
  simp only [transferOf, updateActivity, Succeeds.bind_iff, Succeeds.ensureOrigin_iff,
    getAsset_iff, getInstance_iff, Succeeds.ensure_iff, blockNumber_iff, modifyPallet_iff,
    updateActivity_iff, depositEvent_iff, and_assoc, exists_and_left, exists_eq_left,
    exists_const] at h
  obtain ⟨owner, hcaller, asset, _, inst, hget, rfl, _, _, hactive, rfl⟩ := h
  exact .transfer hget hcaller hactive (Storage.insertInstance_distribution _ _ _ _)

theorem statusChangeOf_effect {assetId : T.Ss58Identifier} {instanceId : Option T.Ss58Identifier}
    {newStatus : AssetStatusOf}
    (h : Succeeds (statusChangeOf k origin assetId instanceId newStatus) s () s')
    : Effect s origin (.statusChangeOf k assetId instanceId newStatus) s'.pallet := by
  simp only [statusChangeOf, updateActivity, Succeeds.bind_iff, Succeeds.ensureOrigin_iff,
    getAsset_iff, Succeeds.ensure_iff, and_assoc, exists_and_left, exists_eq_left,
    exists_const] at h
  obtain ⟨issuer, hcaller, asset, hasset, rfl, _, hchange⟩ := h
  cases instanceId with
  | some instId =>
    simp only [Succeeds.bind_iff, getInstance_iff, Succeeds.ensure_iff, modifyPallet_iff,
      updateActivity_iff, depositEvent_iff, and_assoc, exists_and_left, exists_eq_left,
      exists_const] at hchange
    obtain ⟨inst, hget, _, rfl⟩ := hchange
    exact .instanceStatus hasset hcaller hget (Storage.insertInstance_distribution _ _ _ _)
  | none =>
    simp only [Succeeds.bind_iff, Succeeds.ensure_iff, modifyPallet_iff, updateActivity_iff,
      depositEvent_iff, and_assoc, exists_and_left, exists_eq_left, exists_const] at hchange
    obtain ⟨_, rfl⟩ := hchange
    exact .assetStatus hasset (Storage.insertAsset_distribution _ _ _)

theorem dispatch_effect {call : Call T} (h : Succeeds (dispatch origin call) s () s')
    : Effect s origin call s'.pallet := by
  cases call with
  | create entry digest authorization => exact create_effect h
  | issue entry digest authorization => exact issueOf_effect (k := .plain) h
  | transfer entry digest => exact transferOf_effect (k := .plain) h
  | statusChange assetId instanceId newStatus => exact statusChangeOf_effect (k := .plain) h
  | vcCreate assetQty digest authorization => exact vcCreate_effect h
  | vcIssue entry digest authorization => exact issueOf_effect (k := .vc) h
  | vcTransfer entry digest => exact transferOf_effect (k := .vc) h
  | vcStatusChange assetId instanceId newStatus => exact statusChangeOf_effect (k := .vc) h

end Asset
