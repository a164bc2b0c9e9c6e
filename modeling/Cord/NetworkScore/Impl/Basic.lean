import Cord.ChainSpace.Impl.Client

/-!
This module contains the data model of the network score pallet: the ledger of rating entries, the
scores that are aggregated from it and the index of the messages that were rated.
-/

open Frame Identifier

namespace NetworkScore

/--
`ensureScoreOrigin` yields the subject and the sender of an origin. `timestamp` is the moment that the
timestamp pallet has recorded for a block.
-/
structure Config extends toChainSpace : ChainSpace.Config where
  AccountId : Type
  [decEqAccountId : DecidableEq AccountId]
  ensureScoreOrigin : Origin → Option (SpaceCreatorId × AccountId)
  timestamp : UInt32 → UInt64
  maxEncodedValueLength : UInt32
  encodeValue : List UInt8 → List UInt8
  maxRatingValue : UInt32

instance (T : Config) : DecidableEq T.AccountId := T.decEqAccountId

abbrev Config.plain : Config where
  toChainSpace := .plain
  AccountId := UInt8
  ensureScoreOrigin origin := origin.map fun x => (x, x)
  timestamp height := height.toUInt64
  maxEncodedValueLength := 8
  encodeValue := id
  maxRatingValue := 50

inductive RatingTypeOf where
  | overall
  | delivery
  deriving DecidableEq, Repr

def RatingTypeOf.isValidRatingType : RatingTypeOf → Bool
  | .overall | .delivery => true

inductive EntryTypeOf where
  | credit
  | debit
  deriving DecidableEq, Repr

abbrev EncodedValue (T : Config) := BoundedVec UInt8 T.maxEncodedValueLength.toNat

structure RatingInputEntry (T : Config) where
  entityId : EncodedValue T
  providerId : EncodedValue T
  countOfTxn : UInt64
  totalEncodedRating : UInt64
  ratingType : RatingTypeOf
  providerDid : T.SpaceCreatorId
  deriving DecidableEq

structure RatingEntry (T : Config) where
  entry : RatingInputEntry T
  digest : T.Hash
  messageId : EncodedValue T
  space : T.Ss58Identifier
  creatorId : T.AccountId
  entryType : EntryTypeOf
  referenceId : Option T.Ss58Identifier
  createdAt : UInt64
  deriving DecidableEq

structure AggregatedEntry where
  countOfTxn : UInt64
  totalEncodedRating : UInt64
  deriving DecidableEq, Repr

inductive Event (T : Config) where
  | ratingEntryAdded (identifier : T.Ss58Identifier) (entity : EncodedValue T)
      (provider : T.SpaceCreatorId) (creator : T.AccountId)
  | ratingEntryRevoked (identifier : T.Ss58Identifier) (entity : EncodedValue T)
      (provider : T.SpaceCreatorId) (creator : T.AccountId)
  | ratingEntryRevised (identifier : T.Ss58Identifier) (entity : EncodedValue T)
      (provider : T.SpaceCreatorId) (creator : T.AccountId)
  | aggregateScoreUpdated (entity : EncodedValue T)
  deriving DecidableEq

inductive Error where
  | chainSpace (err : ChainSpace.Error)
  | unauthorizedOperation
  | invalidIdentifierLength
  | messageIdAlreadyExists
  | invalidRatingValue
  | ratingIdentifierAlreadyAdded
  | invalidRatingType
  | ratingIdentifierNotFound
  | referenceIdentifierNotFound
  | referenceNotDebitIdentifier
  | entityMismatch
  | spaceMismatch
  deriving DecidableEq, Repr

structure Storage (T : Config) where
  ratingEntries : StorageMap T.Ss58Identifier (RatingEntry T)
  aggregateScores : StorageMap (EncodedValue T × RatingTypeOf) AggregatedEntry
  messageIdentifiers : StorageMap (EncodedValue T × T.SpaceCreatorId) T.Ss58Identifier
  events : List (Event T)

abbrev State (T : Config) := ChainSpace.Client T.toChainSpace (Storage T)

abbrev CallM (T : Config) := DispatchM (State T) Error

def State.genesis (T : Config) : State T where
  chainSpace := .genesis T.toChainSpace
  pallet := {
    ratingEntries := ∅
    aggregateScores := ∅
    messageIdentifiers := ∅
    events := []
  }

def ratingIdentifier (T : Config) (digest : T.Hash) (entityId messageId : EncodedValue T)
    (spaceId : T.Ss58Identifier) (providerDid : T.SpaceCreatorId) : Option T.Ss58Identifier :=
  let idDigest :=
    T.hash (T.encodeHash digest ++ T.encodeValue entityId.toList ++ T.encodeValue messageId.toList ++
      T.encodeIdentifier spaceId ++ T.encodeCreator providerDid)
  T.createIdentifier (T.encodeHash idDigest) .rating

end NetworkScore
