import Cord.Asset.Impl.Basic

/-!
This module contains the dispatchable calls of the asset pallet. The calls for the two kinds of
assets perform the same checks, apart from those on what is created.
-/

open Frame Identifier
open ChainSpace (Client)
open ChainSpace.Client (getPallet modifyPallet blockNumber)

namespace Asset

variable {T : Config}

def ensureAuthorizationOrigin (authorization : T.Ss58Identifier) (delegate : T.SpaceCreatorId)
    : CallM T T.Ss58Identifier :=
  Client.ensureAuthorizationOrigin .chainSpace authorization delegate

def updateActivity (txId : T.Ss58Identifier) (txAction : CallTypeOf) : CallM T Unit :=
  Client.updateActivity .chainSpace txId .asset txAction

def depositEvent (event : Event T) : CallM T Unit :=
  modifyPallet fun p => { p with events := p.events ++ [event] }

def getAsset (k : AssetKind) (assetId : T.Ss58Identifier) : CallM T (AssetOf T k) := do
  okOr (((← getPallet).assetsOf k).get assetId) .assetIdNotFound

def getInstance (k : AssetKind) (assetId instanceId : T.Ss58Identifier)
    : CallM T (InstanceOf T k) := do
  okOr (((← getPallet).issuanceOf k).get (assetId, instanceId)) .assetInstanceNotFound

def anchorAsset (k : AssetKind) (digest : T.Hash) (spaceId : T.Ss58Identifier)
    (creator : T.SpaceCreatorId) (asset : UInt32 → AssetOf T k) : CallM T Unit := do
  -- The part that `create` and `vc_create` share, `asset` is what is stored for the new asset.
  let identifier ← okOr (assetIdentifier T digest spaceId creator) .invalidIdentifierLength
  ensure (!((← getPallet).assetsOf k).containsKey identifier) .assetIdAlreadyExists
  let createdAt ← blockNumber
  modifyPallet fun p =>
    {
      p.insertAsset identifier (asset createdAt) with
      assetLookup := p.assetLookup.insert digest identifier
    }
  updateActivity identifier .genesis
  depositEvent (.create identifier creator)

def create (origin : T.Origin) (entry : AssetInputEntry T) (digest : T.Hash)
    (authorization : T.Ss58Identifier) : CallM T Unit := do
  let creator ← ensureOrigin (T.ensureAssetOrigin origin)
  let spaceId ← ensureAuthorizationOrigin authorization creator
  ensure (entry.assetQty > 0 ∧ entry.assetValue > 0) .invalidAssetValue
  ensure entry.assetType.isValidAssetType .invalidAssetType
  anchorAsset .plain digest spaceId creator fun createdAt =>
    ({
      assetDetail := entry
      assetIssuance := 0
      assetStatus := .active
      assetIssuer := creator
      createdAt
    } : AssetEntry T)

def vcCreate (origin : T.Origin) (assetQty : UInt64) (digest : T.Hash)
    (authorization : T.Ss58Identifier) : CallM T Unit := do
  let creator ← ensureOrigin (T.ensureAssetOrigin origin)
  let spaceId ← ensureAuthorizationOrigin authorization creator
  ensure (assetQty > 0) .invalidAssetQty
  anchorAsset .vc digest spaceId creator fun createdAt =>
    ({
      assetQty
      digest
      assetIssuance := 0
      assetStatus := .active
      assetIssuer := creator
      createdAt
    } : VCAssetEntry T)

def issueOf (k : AssetKind) (origin : T.Origin) (entry : AssetIssuanceEntry T) (digest : T.Hash)
    (authorization : T.Ss58Identifier) : CallM T Unit := do
  -- An instance that exists already under the same identifier is overwritten.
  let issuer ← ensureOrigin (T.ensureAssetOrigin origin)
  let spaceId ← ensureAuthorizationOrigin authorization issuer
  let asset ← getAsset k entry.assetId
  ensure (asset.assetIssuer = issuer) .unauthorizedOperation
  ensure (asset.assetStatus = .active) .assetNotActive
  let issuanceQty := entry.assetIssuanceQty.getD 1
  let overallIssuance := saturatingAdd asset.assetIssuance issuanceQty
  ensure (overallIssuance ≤ asset.assetQty) .overIssuanceLimit
  let instanceId ← okOr (instanceIdentifier T entry spaceId issuer digest) .invalidIdentifierLength
  let createdAt ← blockNumber
  let dist ← okOr (((← getPallet).distributionOf entry.assetId).tryPush instanceId)
    .distributionLimitExceeded
  let inst := InstanceOf.issued asset entry issuanceQty digest issuer createdAt
  modifyPallet fun p =>
    {
      (p.insertInstance entry.assetId instanceId inst).insertAsset entry.assetId
        (asset.withIssuance overallIssuance) with
      distribution := p.distribution.insert entry.assetId dist
      assetLookup := p.assetLookup.insert digest entry.assetId
    }
  updateActivity entry.assetId .issue
  updateActivity instanceId .genesis
  depositEvent (.issue entry.assetId instanceId)

def issue (origin : T.Origin) (entry : AssetIssuanceEntry T) (digest : T.Hash)
    (authorization : T.Ss58Identifier) : CallM T Unit :=
  issueOf .plain origin entry digest authorization

def vcIssue (origin : T.Origin) (entry : AssetIssuanceEntry T) (digest : T.Hash)
    (authorization : T.Ss58Identifier) : CallM T Unit :=
  issueOf .vc origin entry digest authorization

def transferOf (k : AssetKind) (origin : T.Origin) (entry : AssetTransferEntry T) (digest : T.Hash)
    : CallM T Unit := do
  let owner ← ensureOrigin (T.ensureAssetOrigin origin)
  let asset ← getAsset k entry.assetId
  let inst ← getInstance k entry.assetId entry.assetInstanceId
  ensure (inst.assetInstanceOwner = owner) .unauthorizedOperation
  ensure (inst.assetInstanceOwner = entry.assetOwner) .unauthorizedOperation
  ensure (asset.assetStatus = .active) .assetNotActive
  ensure (inst.assetInstanceStatus = .active) .instanceNotActive
  let createdAt ← blockNumber
  modifyPallet fun p =>
    p.insertInstance entry.assetId entry.assetInstanceId
      (inst.withOwner entry.newAssetOwner digest createdAt)
  updateActivity entry.assetInstanceId .transfer
  depositEvent (.transfer entry.assetId entry.assetInstanceId owner entry.newAssetOwner)

def transfer (origin : T.Origin) (entry : AssetTransferEntry T) (digest : T.Hash)
    : CallM T Unit :=
  transferOf .plain origin entry digest

def vcTransfer (origin : T.Origin) (entry : AssetTransferEntry T) (digest : T.Hash)
    : CallM T Unit :=
  transferOf .vc origin entry digest

def statusChangeOf (k : AssetKind) (origin : T.Origin) (assetId : T.Ss58Identifier)
    (instanceId : Option T.Ss58Identifier) (newStatus : AssetStatusOf) : CallM T Unit := do
  let issuer ← ensureOrigin (T.ensureAssetOrigin origin)
  let asset ← getAsset k assetId
  ensure (asset.assetIssuer = issuer) .unauthorizedOperation
  ensure newStatus.isValidStatusType .invalidAssetStatus
  match instanceId with
  | some instId =>
    let inst ← getInstance k assetId instId
    ensure (newStatus ≠ inst.assetInstanceStatus) .assetInSameState
    modifyPallet fun p => p.insertInstance assetId instId (inst.withStatus newStatus)
    updateActivity instId .update
  | none =>
    ensure (newStatus ≠ asset.assetStatus) .assetInSameState
    modifyPallet fun p => p.insertAsset assetId (asset.withStatus newStatus)
    updateActivity assetId .update
  depositEvent (.statusChange assetId instanceId newStatus)

def statusChange (origin : T.Origin) (assetId : T.Ss58Identifier)
    (instanceId : Option T.Ss58Identifier) (newStatus : AssetStatusOf) : CallM T Unit :=
  statusChangeOf .plain origin assetId instanceId newStatus

def vcStatusChange (origin : T.Origin) (assetId : T.Ss58Identifier)
    (instanceId : Option T.Ss58Identifier) (newStatus : AssetStatusOf) : CallM T Unit :=
  statusChangeOf .vc origin assetId instanceId newStatus

inductive Call (T : Config) where
  | create (entry : AssetInputEntry T) (digest : T.Hash) (authorization : T.Ss58Identifier)
  | issue (entry : AssetIssuanceEntry T) (digest : T.Hash) (authorization : T.Ss58Identifier)
  | transfer (entry : AssetTransferEntry T) (digest : T.Hash)
  | statusChange (assetId : T.Ss58Identifier) (instanceId : Option T.Ss58Identifier)
      (newStatus : AssetStatusOf)
  | vcCreate (assetQty : UInt64) (digest : T.Hash) (authorization : T.Ss58Identifier)
  | vcIssue (entry : AssetIssuanceEntry T) (digest : T.Hash) (authorization : T.Ss58Identifier)
  | vcTransfer (entry : AssetTransferEntry T) (digest : T.Hash)
  | vcStatusChange (assetId : T.Ss58Identifier) (instanceId : Option T.Ss58Identifier)
      (newStatus : AssetStatusOf)

def dispatch (origin : T.Origin) (call : Call T) : CallM T Unit :=
  match call with
  | .create entry digest authorization => create origin entry digest authorization
  | .issue entry digest authorization => issue origin entry digest authorization
  | .transfer entry digest => transfer origin entry digest
  | .statusChange assetId instanceId newStatus => statusChange origin assetId instanceId newStatus
  | .vcCreate assetQty digest authorization => vcCreate origin assetQty digest authorization
  | .vcIssue entry digest authorization => vcIssue origin entry digest authorization
  | .vcTransfer entry digest => vcTransfer origin entry digest
  | .vcStatusChange assetId instanceId newStatus =>
    vcStatusChange origin assetId instanceId newStatus

abbrev Extrinsic (T : Config) := Client.Extrinsic T.toChainSpace (Call T)

def machine (T : Config) : Machine (State T) Error (Extrinsic T) :=
  Client.machine .chainSpace dispatch

section Plain

def plainAsset (digest : UInt8) : List UInt8 :=
  1 :: digest :: ChainSpace.plainSpace 10 1 ++ [1]

def plainInstance (digest owner instDigest : UInt8) : List UInt8 :=
  1 :: plainAsset digest ++ owner :: ChainSpace.plainSpace 10 1 ++ [1, instDigest]

def plainEntry (assetQty : UInt64) : AssetInputEntry .plain where
  assetType := .art
  assetDesc := .empty
  assetQty
  assetValue := 1
  assetTag := .empty
  assetMeta := .empty

def plainCall (origin : UInt8) (call : Call .plain) : Extrinsic .plain :=
  .pallet (some origin) ⟨1, 0⟩ call

def plainSetup : List (Extrinsic .plain) := [
    -- The extrinsics after which `1` can create and issue assets.
    .chainSpace (ChainSpace.plainExtrinsic (some 1) (.create [10])),
    .chainSpace (ChainSpace.plainExtrinsic none (.approve (ChainSpace.plainSpace 10 1) 100))
  ]

def plainCreate (assetQty : UInt64) (digest : UInt8) : Extrinsic .plain :=
  plainCall 1 (.create (plainEntry assetQty) [digest]
    (ChainSpace.plainAuthorization (ChainSpace.plainSpace 10 1) 1 1))

def plainIssue (digest owner : UInt8) (qty : UInt64) (instDigest : UInt8) : Extrinsic .plain :=
  plainCall 1 (.issue ⟨plainAsset digest, owner, some qty⟩ [instDigest]
    (ChainSpace.plainAuthorization (ChainSpace.plainSpace 10 1) 1 1))

end Plain

end Asset
