import Cord.NetworkScore.Impl.Basic

/-!
This module contains the dispatchable calls of the network score pallet.
-/

open Frame Identifier
open ChainSpace (Client)
open ChainSpace.Client (getPallet modifyPallet blockNumber)

namespace NetworkScore

variable {T : Config}

def ensureAuthorizationOrigin (authorization : T.Ss58Identifier) (delegate : T.SpaceCreatorId)
    : CallM T T.Ss58Identifier :=
  Client.ensureAuthorizationOrigin .chainSpace authorization delegate

def updateActivity (txId : T.Ss58Identifier) (txAction : CallTypeOf) : CallM T Unit :=
  Client.updateActivity .chainSpace txId .rating txAction

def getCurrentTime : CallM T UInt64 := do
  return T.timestamp (← blockNumber)

def depositEvent (event : Event T) : CallM T Unit :=
  modifyPallet fun p => { p with events := p.events ++ [event] }

def AggregatedEntry.adjust (aggregate : AggregatedEntry) (entry : RatingInputEntry T)
    (rtype : EntryTypeOf) : AggregatedEntry :=
  match rtype with
  | .credit =>
    {
      countOfTxn := saturatingAdd aggregate.countOfTxn entry.countOfTxn
      totalEncodedRating := saturatingAdd aggregate.totalEncodedRating entry.totalEncodedRating
    }
  | .debit =>
    {
      countOfTxn := saturatingSub aggregate.countOfTxn entry.countOfTxn
      totalEncodedRating := saturatingSub aggregate.totalEncodedRating entry.totalEncodedRating
    }

def Storage.insertAggregate (p : Storage T) (entry : RatingInputEntry T)
    (aggregate : AggregatedEntry) : Storage T :=
  {
    p with
    aggregateScores := p.aggregateScores.insert (entry.entityId, entry.ratingType) aggregate
  }

def aggregateScore (entry : RatingInputEntry T) (rtype : EntryTypeOf) : CallM T Unit := do
  -- Without an aggregate the values of the entry are recorded, for a debit as well.
  match (← getPallet).aggregateScores.get (entry.entityId, entry.ratingType) with
  | some aggregate => modifyPallet fun p => p.insertAggregate entry (aggregate.adjust entry rtype)
  | none =>
    modifyPallet fun p => p.insertAggregate entry ⟨entry.countOfTxn, entry.totalEncodedRating⟩
  depositEvent (.aggregateScoreUpdated entry.entityId)

def ensureRatingValue (entry : RatingInputEntry T) : CallM T Unit := do
  ensure (entry.totalEncodedRating > 0 ∧ entry.countOfTxn > 0 ∧
    entry.totalEncodedRating ≤ entry.countOfTxn * T.maxRatingValue.toUInt64) .invalidRatingValue
  ensure entry.ratingType.isValidRatingType .invalidRatingType

section With

/-
The calls, with a function that stands for `aggregate_score`.
-/
variable (aggregate : RatingInputEntry T → EntryTypeOf → CallM T Unit)

def anchorRatingWith (provider : T.SpaceCreatorId) (spaceId : T.Ss58Identifier) (digest : T.Hash)
    (messageId : EncodedValue T) (record : UInt64 → RatingEntry T) (entry : RatingInputEntry T)
    (entryType : EntryTypeOf) : CallM T T.Ss58Identifier := do
  -- The part that all calls share: `record` is stored under a new identifier. Whether the
  -- message was rated already is looked up for `provider`, who makes the call, and recorded for
  -- the provider of the entry.
  ensure (!(← getPallet).messageIdentifiers.containsKey (messageId, provider))
    .messageIdAlreadyExists
  let identifier ← okOr (ratingIdentifier T digest entry.entityId messageId spaceId entry.providerDid)
    .invalidIdentifierLength
  ensure (!(← getPallet).ratingEntries.containsKey identifier) .ratingIdentifierAlreadyAdded
  aggregate entry entryType
  let createdAt ← getCurrentTime
  modifyPallet fun p =>
    {
      p with
      ratingEntries := p.ratingEntries.insert identifier (record createdAt)
      messageIdentifiers := p.messageIdentifiers.insert (messageId, entry.providerDid) identifier
    }
  updateActivity identifier .genesis
  return identifier

def registerRatingWith (origin : T.Origin) (entry : RatingInputEntry T) (digest : T.Hash)
    (messageId : EncodedValue T) (authorization : T.Ss58Identifier) : CallM T Unit := do
  let (provider, creator) ← ensureOrigin (T.ensureScoreOrigin origin)
  let spaceId ← ensureAuthorizationOrigin authorization provider
  ensureRatingValue entry
  let record (createdAt : UInt64) : RatingEntry T := {
    entry
    digest
    messageId
    space := spaceId
    creatorId := creator
    entryType := .credit
    referenceId := none
    createdAt
  }
  let identifier ← anchorRatingWith aggregate provider spaceId digest messageId record entry .credit
  depositEvent (.ratingEntryAdded identifier entry.entityId entry.providerDid creator)

def revokeRatingWith (origin : T.Origin) (entryIdentifier : T.Ss58Identifier)
    (messageId : EncodedValue T) (digest : T.Hash) (authorization : T.Ss58Identifier)
    : CallM T Unit := do
  -- The debit entry keeps the digest and the message identifier of the entry that is revoked.
  let (provider, creator) ← ensureOrigin (T.ensureScoreOrigin origin)
  let spaceId ← ensureAuthorizationOrigin authorization provider
  let ratingDetails ← okOr ((← getPallet).ratingEntries.get entryIdentifier)
    .ratingIdentifierNotFound
  ensure (ratingDetails.space = spaceId) .unauthorizedOperation
  let record (createdAt : UInt64) : RatingEntry T := {
    ratingDetails with
    creatorId := creator
    entryType := .debit
    referenceId := some entryIdentifier
    createdAt
  }
  let identifier ← anchorRatingWith aggregate provider spaceId digest messageId record
    ratingDetails.entry .debit
  updateActivity entryIdentifier .debit
  depositEvent (.ratingEntryRevoked identifier ratingDetails.entry.entityId
    ratingDetails.entry.providerDid creator)

def reviseRatingWith (origin : T.Origin) (entry : RatingInputEntry T) (digest : T.Hash)
    (messageId : EncodedValue T) (debitRefId authorization : T.Ss58Identifier) : CallM T Unit := do
  let (provider, creator) ← ensureOrigin (T.ensureScoreOrigin origin)
  let spaceId ← ensureAuthorizationOrigin authorization provider
  ensureRatingValue entry
  let ratingDetails ← okOr ((← getPallet).ratingEntries.get debitRefId)
    .referenceIdentifierNotFound
  ensure (entry.entityId = ratingDetails.entry.entityId) .entityMismatch
  ensure (spaceId = ratingDetails.space) .spaceMismatch
  ensure (ratingDetails.entryType = .debit) .referenceNotDebitIdentifier
  let record (createdAt : UInt64) : RatingEntry T := {
    entry
    digest
    messageId
    space := spaceId
    creatorId := creator
    entryType := .credit
    referenceId := ratingDetails.referenceId
    createdAt
  }
  let identifier ← anchorRatingWith aggregate provider spaceId digest messageId record entry .credit
  match ratingDetails.referenceId with
  | some referenceId => updateActivity referenceId .credit
  | none => pure ()
  depositEvent (.ratingEntryRevised identifier ratingDetails.entry.entityId entry.providerDid creator)

inductive Call (T : Config) where
  | registerRating (entry : RatingInputEntry T) (digest : T.Hash) (messageId : EncodedValue T)
      (authorization : T.Ss58Identifier)
  | revokeRating (entryIdentifier : T.Ss58Identifier) (messageId : EncodedValue T) (digest : T.Hash)
      (authorization : T.Ss58Identifier)
  | reviseRating (entry : RatingInputEntry T) (digest : T.Hash) (messageId : EncodedValue T)
      (debitRefId authorization : T.Ss58Identifier)

def dispatchWith (origin : T.Origin) (call : Call T) : CallM T Unit :=
  match call with
  | .registerRating entry digest messageId authorization =>
    registerRatingWith aggregate origin entry digest messageId authorization
  | .revokeRating entryIdentifier messageId digest authorization =>
    revokeRatingWith aggregate origin entryIdentifier messageId digest authorization
  | .reviseRating entry digest messageId debitRefId authorization =>
    reviseRatingWith aggregate origin entry digest messageId debitRefId authorization

end With

def registerRating (origin : T.Origin) (entry : RatingInputEntry T) (digest : T.Hash)
    (messageId : EncodedValue T) (authorization : T.Ss58Identifier) : CallM T Unit :=
  registerRatingWith aggregateScore origin entry digest messageId authorization

def revokeRating (origin : T.Origin) (entryIdentifier : T.Ss58Identifier)
    (messageId : EncodedValue T) (digest : T.Hash) (authorization : T.Ss58Identifier)
    : CallM T Unit :=
  revokeRatingWith aggregateScore origin entryIdentifier messageId digest authorization

def reviseRating (origin : T.Origin) (entry : RatingInputEntry T) (digest : T.Hash)
    (messageId : EncodedValue T) (debitRefId authorization : T.Ss58Identifier) : CallM T Unit :=
  reviseRatingWith aggregateScore origin entry digest messageId debitRefId authorization

def dispatch (origin : T.Origin) (call : Call T) : CallM T Unit :=
  dispatchWith aggregateScore origin call

abbrev Extrinsic (T : Config) := Client.Extrinsic T.toChainSpace (Call T)

def machine (T : Config) : Machine (State T) Error (Extrinsic T) :=
  Client.machine .chainSpace dispatch

section Plain

def plainValue (x : UInt8) : EncodedValue .plain := ⟨[x], by rw [List.length_singleton]; decide⟩

def plainEntry (providerDid : UInt8) : RatingInputEntry .plain where
  entityId := plainValue 7
  providerId := plainValue 8
  countOfTxn := 1
  totalEncodedRating := 5
  ratingType := .overall
  providerDid

def plainRating (digest message providerDid : UInt8) : List UInt8 :=
  [1, digest, 7, message] ++ ChainSpace.plainSpace 10 1 ++ [providerDid]

def plainSetup : List (Extrinsic .plain) := [
    -- The extrinsics after which `1` can rate, and `2` as well.
    .chainSpace (ChainSpace.plainExtrinsic (some 1) (.create [10])),
    .chainSpace (ChainSpace.plainExtrinsic none (.approve (ChainSpace.plainSpace 10 1) 100)),
    .chainSpace (ChainSpace.plainExtrinsic (some 1) (.addDelegate (ChainSpace.plainSpace 10 1) 2
      (ChainSpace.plainAuthorization (ChainSpace.plainSpace 10 1) 1 1)))
  ]

def plainCall (origin : UInt8) (call : Call .plain) : Extrinsic .plain :=
  .pallet (some origin) ⟨1, 0⟩ call

def plainRegister (origin providerDid digest message : UInt8) : Extrinsic .plain :=
  plainCall origin (.registerRating (plainEntry providerDid) [digest] (plainValue message)
    (ChainSpace.plainAuthorization (ChainSpace.plainSpace 10 1) origin 1))

def plainRevoke (rating : List UInt8) (digest message : UInt8) : Extrinsic .plain :=
  plainCall 1 (.revokeRating rating (plainValue message) [digest]
    (ChainSpace.plainAuthorization (ChainSpace.plainSpace 10 1) 1 1))

def revokeTwice : List (Extrinsic .plain) :=
  -- A rating is revoked twice, under different messages.
  plainSetup ++ [plainRegister 1 1 20 30, plainRevoke (plainRating 20 30 1) 21 31,
    plainRevoke (plainRating 20 30 1) 22 32]

end Plain

end NetworkScore
