import Cord.ChainSpace.Impl.Client

/-!
This module contains the data model of the asset pallet. There are two kinds of assets, those whose
details are stored and those that are verifiable credentials, each with a map of its own for the
assets and for the instances that were issued. Both share the list of the instances of an asset.
-/

open Frame Identifier

namespace Asset

structure Config extends toChainSpace : ChainSpace.Config where
  ensureAssetOrigin : Origin → Option SpaceCreatorId
  maxEncodedValueLength : UInt32
  maxAssetDistribution : UInt32

abbrev Config.plain : Config where
  toChainSpace := .plain
  ensureAssetOrigin := id
  maxEncodedValueLength := 8
  maxAssetDistribution := 4

inductive AssetTypeOf where
  | art
  | bond
  | mf
  deriving DecidableEq, Repr

def AssetTypeOf.isValidAssetType : AssetTypeOf → Bool
  | .art | .bond | .mf => true

inductive AssetStatusOf where
  | active
  | inactive
  | expired
  deriving DecidableEq, Repr

def AssetStatusOf.isValidStatusType : AssetStatusOf → Bool
  | .active | .inactive | .expired => true

abbrev EncodedValue (T : Config) := BoundedVec UInt8 T.maxEncodedValueLength.toNat

structure AssetInputEntry (T : Config) where
  assetType : AssetTypeOf
  assetDesc : EncodedValue T
  assetQty : UInt64
  assetValue : UInt32
  assetTag : EncodedValue T
  assetMeta : EncodedValue T
  deriving DecidableEq

structure AssetEntry (T : Config) where
  assetDetail : AssetInputEntry T
  assetIssuance : UInt64
  assetStatus : AssetStatusOf
  assetIssuer : T.SpaceCreatorId
  createdAt : UInt32
  deriving DecidableEq

structure VCAssetEntry (T : Config) where
  digest : T.Hash
  assetIssuance : UInt64
  assetStatus : AssetStatusOf
  assetIssuer : T.SpaceCreatorId
  assetQty : UInt64
  createdAt : UInt32
  deriving DecidableEq

structure AssetDistributionEntry (T : Config) where
  assetInstanceDetail : AssetInputEntry T
  assetInstanceParent : T.Ss58Identifier
  assetInstanceStatus : AssetStatusOf
  assetInstanceIssuer : T.SpaceCreatorId
  assetInstanceOwner : T.SpaceCreatorId
  createdAt : UInt32
  deriving DecidableEq

structure VCAssetDistributionEntry (T : Config) where
  assetQty : UInt64
  assetInstanceParent : T.Ss58Identifier
  digest : T.Hash
  assetInstanceStatus : AssetStatusOf
  assetInstanceIssuer : T.SpaceCreatorId
  assetInstanceOwner : T.SpaceCreatorId
  createdAt : UInt32
  deriving DecidableEq

structure AssetIssuanceEntry (T : Config) where
  assetId : T.Ss58Identifier
  assetOwner : T.SpaceCreatorId
  assetIssuanceQty : Option UInt64

structure AssetTransferEntry (T : Config) where
  assetId : T.Ss58Identifier
  assetInstanceId : T.Ss58Identifier
  assetOwner : T.SpaceCreatorId
  newAssetOwner : T.SpaceCreatorId

inductive AssetKind where
  | plain
  | vc
  deriving DecidableEq, Repr

section Records

variable {T : Config}

def AssetOf (T : Config) : AssetKind → Type
  | .plain => AssetEntry T
  | .vc => VCAssetEntry T

instance : {k : AssetKind} → DecidableEq (AssetOf T k)
  | .plain => inferInstanceAs (DecidableEq (AssetEntry T))
  | .vc => inferInstanceAs (DecidableEq (VCAssetEntry T))

namespace AssetOf

def assetQty : {k : AssetKind} → AssetOf T k → UInt64
  | .plain, (a : AssetEntry T) => a.assetDetail.assetQty
  | .vc, (a : VCAssetEntry T) => a.assetQty

def assetIssuance : {k : AssetKind} → AssetOf T k → UInt64
  | .plain, (a : AssetEntry T) => a.assetIssuance
  | .vc, (a : VCAssetEntry T) => a.assetIssuance

def assetStatus : {k : AssetKind} → AssetOf T k → AssetStatusOf
  | .plain, (a : AssetEntry T) => a.assetStatus
  | .vc, (a : VCAssetEntry T) => a.assetStatus

def assetIssuer : {k : AssetKind} → AssetOf T k → T.SpaceCreatorId
  | .plain, (a : AssetEntry T) => a.assetIssuer
  | .vc, (a : VCAssetEntry T) => a.assetIssuer

def withIssuance : {k : AssetKind} → AssetOf T k → UInt64 → AssetOf T k
  | .plain, (a : AssetEntry T), assetIssuance => ({ a with assetIssuance } : AssetEntry T)
  | .vc, (a : VCAssetEntry T), assetIssuance => ({ a with assetIssuance } : VCAssetEntry T)

def withStatus : {k : AssetKind} → AssetOf T k → AssetStatusOf → AssetOf T k
  | .plain, (a : AssetEntry T), assetStatus => ({ a with assetStatus } : AssetEntry T)
  | .vc, (a : VCAssetEntry T), assetStatus => ({ a with assetStatus } : VCAssetEntry T)

end AssetOf

def InstanceOf (T : Config) : AssetKind → Type
  | .plain => AssetDistributionEntry T
  | .vc => VCAssetDistributionEntry T

instance : {k : AssetKind} → DecidableEq (InstanceOf T k)
  | .plain => inferInstanceAs (DecidableEq (AssetDistributionEntry T))
  | .vc => inferInstanceAs (DecidableEq (VCAssetDistributionEntry T))

namespace InstanceOf

def assetQty : {k : AssetKind} → InstanceOf T k → UInt64
  | .plain, (i : AssetDistributionEntry T) => i.assetInstanceDetail.assetQty
  | .vc, (i : VCAssetDistributionEntry T) => i.assetQty

def assetInstanceStatus : {k : AssetKind} → InstanceOf T k → AssetStatusOf
  | .plain, (i : AssetDistributionEntry T) => i.assetInstanceStatus
  | .vc, (i : VCAssetDistributionEntry T) => i.assetInstanceStatus

def assetInstanceOwner : {k : AssetKind} → InstanceOf T k → T.SpaceCreatorId
  | .plain, (i : AssetDistributionEntry T) => i.assetInstanceOwner
  | .vc, (i : VCAssetDistributionEntry T) => i.assetInstanceOwner

def issued : {k : AssetKind} → AssetOf T k → AssetIssuanceEntry T → UInt64 → T.Hash →
    T.SpaceCreatorId → UInt32 → InstanceOf T k
  -- The instance that is issued: the details of the asset with the quantity of the issuance, or
  -- the quantity and the digest of the credential.
  | .plain, (a : AssetEntry T), entry, issuanceQty, _, issuer, createdAt =>
    ({
      assetInstanceDetail := { a.assetDetail with assetQty := issuanceQty }
      assetInstanceParent := entry.assetId
      assetInstanceStatus := .active
      assetInstanceIssuer := issuer
      assetInstanceOwner := entry.assetOwner
      createdAt
    } : AssetDistributionEntry T)
  | .vc, _, entry, issuanceQty, digest, issuer, createdAt =>
    ({
      assetQty := issuanceQty
      assetInstanceParent := entry.assetId
      digest
      assetInstanceStatus := .active
      assetInstanceIssuer := issuer
      assetInstanceOwner := entry.assetOwner
      createdAt
    } : VCAssetDistributionEntry T)

def withOwner : {k : AssetKind} → InstanceOf T k → T.SpaceCreatorId → T.Hash → UInt32 →
    InstanceOf T k
  -- The digest of a credential is replaced with the one of the transfer.
  | .plain, (i : AssetDistributionEntry T), assetInstanceOwner, _, createdAt =>
    ({ i with assetInstanceOwner, createdAt } : AssetDistributionEntry T)
  | .vc, (i : VCAssetDistributionEntry T), assetInstanceOwner, digest, createdAt =>
    ({ i with assetInstanceOwner, digest, createdAt } : VCAssetDistributionEntry T)

def withStatus : {k : AssetKind} → InstanceOf T k → AssetStatusOf → InstanceOf T k
  | .plain, (i : AssetDistributionEntry T), assetInstanceStatus =>
    ({ i with assetInstanceStatus } : AssetDistributionEntry T)
  | .vc, (i : VCAssetDistributionEntry T), assetInstanceStatus =>
    ({ i with assetInstanceStatus } : VCAssetDistributionEntry T)

end InstanceOf

end Records

inductive Event (T : Config) where
  | create (identifier : T.Ss58Identifier) (issuer : T.SpaceCreatorId)
  | issue (identifier inst : T.Ss58Identifier)
  | transfer (identifier inst : T.Ss58Identifier) (sender receiver : T.SpaceCreatorId)
  | statusChange (identifier : T.Ss58Identifier) (inst : Option T.Ss58Identifier)
      (status : AssetStatusOf)
  deriving DecidableEq

inductive Error where
  | chainSpace (err : ChainSpace.Error)
  | unauthorizedOperation
  | invalidIdentifierLength
  | assetIdAlreadyExists
  | invalidAssetValue
  | invalidAssetQty
  | invalidAssetType
  | invalidAssetStatus
  | assetIdNotFound
  | assetNotActive
  | instanceNotActive
  | overIssuanceLimit
  | distributionLimitExceeded
  | assetInstanceNotFound
  | assetInSameState
  deriving DecidableEq, Repr

structure Storage (T : Config) where
  assets : StorageMap T.Ss58Identifier (AssetEntry T)
  vcAssets : StorageMap T.Ss58Identifier (VCAssetEntry T)
  distribution : StorageMap T.Ss58Identifier
    (BoundedVec T.Ss58Identifier T.maxAssetDistribution.toNat)
  issuance : StorageMap (T.Ss58Identifier × T.Ss58Identifier) (AssetDistributionEntry T)
  vcIssuance : StorageMap (T.Ss58Identifier × T.Ss58Identifier) (VCAssetDistributionEntry T)
  assetLookup : StorageMap T.Hash T.Ss58Identifier
  events : List (Event T)

namespace Storage

variable {T : Config}

def assetsOf (p : Storage T) : (k : AssetKind) → StorageMap T.Ss58Identifier (AssetOf T k)
  | .plain => p.assets
  | .vc => p.vcAssets

def issuanceOf (p : Storage T)
    : (k : AssetKind) → StorageMap (T.Ss58Identifier × T.Ss58Identifier) (InstanceOf T k)
  | .plain => p.issuance
  | .vc => p.vcIssuance

def distributionOf (p : Storage T) (assetId : T.Ss58Identifier)
    : BoundedVec T.Ss58Identifier T.maxAssetDistribution.toNat :=
  p.distribution.getD assetId .empty

def insertAsset (p : Storage T) (assetId : T.Ss58Identifier)
    : {k : AssetKind} → AssetOf T k → Storage T
  | .plain, (a : AssetEntry T) => { p with assets := p.assets.insert assetId a }
  | .vc, (a : VCAssetEntry T) => { p with vcAssets := p.vcAssets.insert assetId a }

def insertInstance (p : Storage T) (assetId instanceId : T.Ss58Identifier)
    : {k : AssetKind} → InstanceOf T k → Storage T
  | .plain, (i : AssetDistributionEntry T) =>
    { p with issuance := p.issuance.insert (assetId, instanceId) i }
  | .vc, (i : VCAssetDistributionEntry T) =>
    { p with vcIssuance := p.vcIssuance.insert (assetId, instanceId) i }

def getDistributedQty (p : Storage T) (assetId : T.Ss58Identifier) : UInt32 :=
  match p.distribution.get assetId with
  | some dist => dist.toList.length.toUInt32
  | none => 0

end Storage

abbrev State (T : Config) := ChainSpace.Client T.toChainSpace (Storage T)

abbrev CallM (T : Config) := DispatchM (State T) Error

def State.genesis (T : Config) : State T where
  chainSpace := .genesis T.toChainSpace
  pallet := {
    assets := ∅
    vcAssets := ∅
    distribution := ∅
    issuance := ∅
    vcIssuance := ∅
    assetLookup := ∅
    events := []
  }

def assetIdentifier (T : Config) (digest : T.Hash) (spaceId : T.Ss58Identifier)
    (creator : T.SpaceCreatorId) : Option T.Ss58Identifier :=
  let idDigest :=
    T.hash (T.encodeHash digest ++ T.encodeIdentifier spaceId ++ T.encodeCreator creator)
  T.createIdentifier (T.encodeHash idDigest) .asset

def instanceIdentifier (T : Config) (entry : AssetIssuanceEntry T) (spaceId : T.Ss58Identifier)
    (issuer : T.SpaceCreatorId) (digest : T.Hash) : Option T.Ss58Identifier :=
  let idDigest :=
    T.hash (T.encodeIdentifier entry.assetId ++ T.encodeCreator entry.assetOwner ++
      T.encodeIdentifier spaceId ++ T.encodeCreator issuer ++ T.encodeHash digest)
  T.createIdentifier (T.encodeHash idDigest) .assetInstance

end Asset
