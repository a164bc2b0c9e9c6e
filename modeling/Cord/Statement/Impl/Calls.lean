import Cord.Statement.Impl.Basic

/-!
This module contains the dispatchable calls of the statement pallet.
-/

open Frame Identifier

namespace Statement

variable {T : Config}

def ensureAuthorized (origin : T.Origin) (authorization : T.Ss58Identifier)
    : CallM T (T.SpaceCreatorId × T.Ss58Identifier) := do
  -- Every call starts with who makes it and with the space that is charged for it.
  let creator ← ensureOrigin (T.ensureStatementOrigin origin)
  let spaceId ← chainSpace (ChainSpace.ensureAuthorizationOrigin authorization creator)
  return (creator, spaceId)

def anchorStatement (identifier : T.Ss58Identifier) (digest : T.Hash) (spaceId : T.Ss58Identifier)
    (creator : T.SpaceCreatorId) (schemaId : Option T.Ss58Identifier) : CallM T Unit := do
  modify fun s =>
    {
      s with
      statements := s.statements.insert identifier { digest, space := spaceId, schema := schemaId }
      entries := s.entries.insert (identifier, digest) creator
      identifierLookup := s.identifierLookup.insert (digest, spaceId) identifier
    }
  updateActivity identifier .genesis

def register (origin : T.Origin) (digest : T.Hash) (authorization : T.Ss58Identifier)
    (schemaId : Option T.Ss58Identifier) : CallM T Unit := do
  let (creator, spaceId) ← ensureAuthorized origin authorization
  let identifier ← okOr (statementIdentifier T digest spaceId creator) .invalidIdentifierLength
  ensure (!(← get).statements.containsKey identifier) .statementAlreadyAnchored
  anchorStatement identifier digest spaceId creator schemaId
  depositEvent (.register identifier digest creator)

def update (origin : T.Origin) (statementId : T.Ss58Identifier) (newStatementDigest : T.Hash)
    (authorization : T.Ss58Identifier) : CallM T Unit := do
  let (updater, spaceId) ← ensureAuthorized origin authorization
  let statementDetails ← getStatement statementId
  ensure (statementDetails.space = spaceId) .unauthorizedOperation
  ensure (!(← get).revocationList.containsKey (statementId, statementDetails.digest))
    .statementRevoked
  ensure (!(← get).entries.containsKey (statementId, newStatementDigest))
    .statementDigestAlreadyAnchored
  modify fun s =>
    {
      s with
      revocationList := s.revocationList.insert (statementId, statementDetails.digest)
        { creator := updater, revoked := true }
      entries := s.entries.insert (statementId, newStatementDigest) updater
      identifierLookup :=
        s.identifierLookup.insert (newStatementDigest, statementDetails.space) statementId
      statements := s.statements.insert statementId
        { statementDetails with digest := newStatementDigest }
    }
  updateActivity statementId .update
  depositEvent (.update statementId newStatementDigest updater)

def revoke (origin : T.Origin) (statementId authorization : T.Ss58Identifier) : CallM T Unit := do
  let (updater, spaceId) ← ensureAuthorized origin authorization
  let statementDetails ← getStatement statementId
  ensure (!(← get).revocationList.containsKey (statementId, statementDetails.digest))
    .statementRevoked
  ensure (statementDetails.space = spaceId) .unauthorizedOperation
  modify fun s =>
    {
      s with
      revocationList := s.revocationList.insert (statementId, statementDetails.digest)
        { creator := updater, revoked := true }
    }
  updateActivity statementId .revoke
  depositEvent (.revoke statementId updater)

def restore (origin : T.Origin) (statementId authorization : T.Ss58Identifier) : CallM T Unit := do
  let (updater, spaceId) ← ensureAuthorized origin authorization
  let statementDetails ← getStatement statementId
  ensure ((← get).revocationList.containsKey (statementId, statementDetails.digest))
    .statementNotRevoked
  ensure (statementDetails.space = spaceId) .unauthorizedOperation
  modify fun s =>
    {
      s with
      revocationList := s.revocationList.remove (statementId, statementDetails.digest)
    }
  updateActivity statementId .restore
  depositEvent (.restore statementId updater)

def State.iterEntries (s : State T) (statementId : T.Ss58Identifier) : List T.Hash :=
  T.iterOrder (s.entries.prefixKeys statementId)

def removeComplete (statementId spaceId : T.Ss58Identifier) : CallM T Unit := do
  let digests := (← get).iterEntries statementId
  modify fun s =>
    {
      s with
      identifierLookup :=
        digests.foldl (fun lookup digest => lookup.remove (digest, spaceId)) s.identifierLookup
      revocationList := s.revocationList.clearPrefix T.iterOrder statementId digests.length
      entries := s.entries.clearPrefix T.iterOrder statementId digests.length
      statements := s.statements.remove statementId
    }
  chainSpace (ChainSpace.decrementUsageEntries spaceId digests.length.toUInt16)

def removePartial (statementId spaceId : T.Ss58Identifier) (maxRemovals : Nat)
    : CallM T Nat := do
  let digests := ((← get).iterEntries statementId).take maxRemovals
  modify fun s =>
    {
      s with
      identifierLookup :=
        digests.foldl (fun lookup digest => lookup.remove (digest, spaceId)) s.identifierLookup
      revocationList :=
        digests.foldl (fun list digest => list.remove (statementId, digest)) s.revocationList
      entries := digests.foldl (fun entries digest => entries.remove (statementId, digest)) s.entries
    }
  chainSpace (ChainSpace.decrementUsageEntries spaceId digests.length.toUInt16)
  return digests.length

def remove (origin : T.Origin) (statementId authorization : T.Ss58Identifier) : CallM T Unit := do
  let (updater, spaceId) ← ensureAuthorized origin authorization
  let statementDetails ← getStatement statementId
  ensure (statementDetails.space = spaceId) .unauthorizedOperation
  let entriesCount := ((← get).iterEntries statementId).length
  let maxRemovals := T.maxRemoveEntries.toNat
  if entriesCount ≤ maxRemovals then
    removeComplete statementId spaceId
    updateActivity statementId .remove
    depositEvent (.remove statementId updater)
  else
    let removedCount ← removePartial statementId spaceId maxRemovals
    updateActivity statementId .partialRemove
    depositEvent (.partialRemoval statementId removedCount.toUInt32 updater)

structure BatchResult where
  success : UInt32
  fail : UInt32
  indices : List UInt16
  deriving DecidableEq, Repr

def BatchResult.failAt (result : BatchResult) (index : Nat) : BatchResult :=
  { result with fail := result.fail + 1, indices := result.indices ++ [index.toUInt16] }

def registerDigests (spaceId : T.Ss58Identifier) (creator : T.SpaceCreatorId)
    (schemaId : Option T.Ss58Identifier) (digests : List T.Hash) (index : Nat)
    (result : BatchResult) : CallM T BatchResult :=
  -- The loop of `register_batch`. `update_activity` never returns an error, so the branch that
  -- counts such a digest as failed is not there.
  match digests with
  | [] => return result
  | digest :: digests => do
    match statementIdentifier T digest spaceId creator with
    | some identifier =>
      if (← get).statements.containsKey identifier then
        registerDigests spaceId creator schemaId digests (index + 1) (result.failAt index)
      else
        anchorStatement identifier digest spaceId creator schemaId
        registerDigests spaceId creator schemaId digests (index + 1)
          { result with success := result.success + 1 }
    | none => registerDigests spaceId creator schemaId digests (index + 1) (result.failAt index)

def registerBatch (origin : T.Origin) (digests : List T.Hash) (authorization : T.Ss58Identifier)
    (schemaId : Option T.Ss58Identifier) : CallM T Unit := do
  -- The space is charged for every digest of the batch, one of them was charged with the
  -- authorization. The remaining capacity is not looked at again.
  let (creator, spaceId) ← ensureAuthorized origin authorization
  ensure (digests.length ≤ T.maxDigestsPerBatch.toNat) .maxDigestLimitExceeded
  let result ← registerDigests spaceId creator schemaId digests 0 ⟨0, 0, []⟩
  ensure (result.success > 0) .bulkTransactionFailed
  if digests.length > 1 then
    chainSpace (ChainSpace.incrementUsageEntries spaceId (digests.length - 1).toUInt16)
  depositEvent (.registerBatch result.success result.fail result.indices creator)

def addPresentation (origin : T.Origin) (statementId : T.Ss58Identifier)
    (presentationDigest : T.Hash) (presentationType : PresentationTypeOf)
    (authorization : T.Ss58Identifier) : CallM T Unit := do
  let (creator, spaceId) ← ensureAuthorized origin authorization
  let statementDetails ← getStatement statementId
  ensure (!(← get).revocationList.containsKey (statementId, statementDetails.digest))
    .statementRevoked
  ensure (statementDetails.space = spaceId) .unauthorizedOperation
  ensure (!(← get).presentations.containsKey (statementId, presentationDigest))
    .presentationDigestAlreadyAnchored
  modify fun s =>
    {
      s with
      identifierLookup := s.identifierLookup.insert (presentationDigest, spaceId) statementId
      presentations := s.presentations.insert (statementId, presentationDigest)
        { creator, presentationType, digest := statementDetails.digest, space := spaceId }
    }
  updateActivity statementId .presentationAdded
  depositEvent (.presentationAdded statementId presentationDigest creator)

def removePresentation (origin : T.Origin) (statementId : T.Ss58Identifier)
    (presentationDigest : T.Hash) (authorization : T.Ss58Identifier) : CallM T Unit := do
  let (remover, spaceId) ← ensureAuthorized origin authorization
  let presentationDetails ←
    okOr ((← get).presentations.get (statementId, presentationDigest)) .presentationNotFound
  ensure (presentationDetails.space = spaceId) .unauthorizedOperation
  modify fun s =>
    {
      s with
      presentations := s.presentations.remove (statementId, presentationDigest)
      identifierLookup := s.identifierLookup.remove (presentationDigest, spaceId)
    }
  chainSpace (ChainSpace.decrementUsage spaceId)
  updateActivity statementId .presentationRemoved
  depositEvent (.presentationRemoved statementId presentationDigest remover)

inductive Call (T : Config) where
  | register (digest : T.Hash) (authorization : T.Ss58Identifier)
      (schemaId : Option T.Ss58Identifier)
  | update (statementId : T.Ss58Identifier) (newStatementDigest : T.Hash)
      (authorization : T.Ss58Identifier)
  | revoke (statementId authorization : T.Ss58Identifier)
  | restore (statementId authorization : T.Ss58Identifier)
  | remove (statementId authorization : T.Ss58Identifier)
  | registerBatch (digests : List T.Hash) (authorization : T.Ss58Identifier)
      (schemaId : Option T.Ss58Identifier)
  | addPresentation (statementId : T.Ss58Identifier) (presentationDigest : T.Hash)
      (presentationType : PresentationTypeOf) (authorization : T.Ss58Identifier)
  | removePresentation (statementId : T.Ss58Identifier) (presentationDigest : T.Hash)
      (authorization : T.Ss58Identifier)

def Call.dispatch (call : Call T) (origin : T.Origin) : CallM T Unit :=
  match call with
  | .register digest authorization schemaId =>
    Statement.register origin digest authorization schemaId
  | .update statementId newStatementDigest authorization =>
    Statement.update origin statementId newStatementDigest authorization
  | .revoke statementId authorization => Statement.revoke origin statementId authorization
  | .restore statementId authorization => Statement.restore origin statementId authorization
  | .remove statementId authorization => Statement.remove origin statementId authorization
  | .registerBatch digests authorization schemaId =>
    Statement.registerBatch origin digests authorization schemaId
  | .addPresentation statementId presentationDigest presentationType authorization =>
    Statement.addPresentation origin statementId presentationDigest presentationType authorization
  | .removePresentation statementId presentationDigest authorization =>
    Statement.removePresentation origin statementId presentationDigest authorization

inductive Extrinsic (T : Config) where
  | chainSpace (ext : ChainSpace.Extrinsic T.toChainSpace)
  | statement (origin : T.Origin) (timepoint : Timepoint) (call : Call T)

def Extrinsic.dispatch (ext : Extrinsic T) : CallM T Unit :=
  match ext with
  | .chainSpace ext => Statement.chainSpace ext.dispatch
  | .statement origin timepoint call => do
    modify fun s => { s with chainSpace.timepoint := timepoint }
    call.dispatch origin

def machine (T : Config) : Machine (State T) Error (Extrinsic T) where
  dispatch := Extrinsic.dispatch

end Statement
