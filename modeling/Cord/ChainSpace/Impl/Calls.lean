import Cord.ChainSpace.Impl.Usage

/-!
This module contains the dispatchable calls of the chain space pallet.
-/

open Frame Identifier

namespace ChainSpace

variable {T : Config}

def spaceDelegateAddition (spaceId : T.Ss58Identifier) (delegate creator : T.SpaceCreatorId)
    (permissions : Permissions) : CallM T Unit := do
  let delegateAuthorizationId ←
    okOr (authorizationIdentifier T spaceId delegate creator) .invalidIdentifierLength
  ensure (!(← get).authorizations.containsKey delegateAuthorizationId) .delegateAlreadyAdded
  let delegates ←
    okOr (((← get).delegatesOf spaceId).tryPush delegate) .spaceDelegatesLimitExceeded
  insertDelegates spaceId delegates
  insertAuthorization delegateAuthorizationId { spaceId, delegate, permissions, delegator := creator }
  updateActivity spaceId .auth .authorization
  depositEvent (.authorization spaceId delegateAuthorizationId delegate)

def addDelegateWith
    (ensureAuthorization : T.Ss58Identifier → T.SpaceCreatorId → CallM T T.Ss58Identifier)
    (permissions : Permissions) (origin : T.Origin) (spaceId : T.Ss58Identifier)
    (delegate : T.SpaceCreatorId) (authorization : T.Ss58Identifier) : CallM T Unit := do
  let creator ← ensureOrigin (T.ensureOrigin origin)
  let authSpaceId ← ensureAuthorization authorization creator
  ensure (authSpaceId = spaceId) .unauthorizedOperation
  spaceDelegateAddition authSpaceId delegate creator permissions

def addDelegate : T.Origin → T.Ss58Identifier → T.SpaceCreatorId → T.Ss58Identifier → CallM T Unit :=
  addDelegateWith ensureAuthorizationDelegatorOrigin .assert

def addAdminDelegate
    : T.Origin → T.Ss58Identifier → T.SpaceCreatorId → T.Ss58Identifier → CallM T Unit :=
  addDelegateWith ensureAuthorizationAdminOrigin .admin

def addDelegator
    : T.Origin → T.Ss58Identifier → T.SpaceCreatorId → T.Ss58Identifier → CallM T Unit :=
  addDelegateWith ensureAuthorizationAdminOrigin .delegate

def removeDelegate (origin : T.Origin) (spaceId removeAuthorizationId authorization : T.Ss58Identifier)
    : CallM T Unit := do
  -- Only the delegate of `removeAuthorization` is looked up in the list of the space, the space
  -- that is stored in `removeAuthorization` is not compared with `spaceId`.
  let creator ← ensureOrigin (T.ensureOrigin origin)
  let authSpaceId ← ensureAuthorizationAdminRemoveOrigin authorization creator
  ensure (authSpaceId = spaceId) .unauthorizedOperation
  let authorizationDetails ←
    okOr ((← get).authorizations.get removeAuthorizationId) .authorizationNotFound
  let delegates := (← get).delegatesOf spaceId
  let index ← okOr (delegates.toList.idxOf? authorizationDetails.delegate) .delegateNotFound
  insertDelegates spaceId (delegates.remove index)
  removeAuthorization removeAuthorizationId
  decrementUsage spaceId
  updateActivity spaceId .auth .deauthorization
  depositEvent (.deauthorization spaceId removeAuthorizationId)

def anchorSpace (spaceCode : T.Hash) (creator : T.SpaceCreatorId)
    : CallM T (T.Ss58Identifier × T.Ss58Identifier) := do
  -- The part that `create` and `subspace_create` share: the identifiers of a new space and of
  -- the authorization of its creator, and the creator as its first delegate with all
  -- permissions.
  let identifier ← okOr (spaceIdentifier T spaceCode creator) .invalidIdentifierLength
  ensure (!(← get).spaces.containsKey identifier) .spaceAlreadyAnchored
  let authorizationId ←
    okOr (authorizationIdentifier T identifier creator creator) .invalidIdentifierLength
  let delegates ← okOr (BoundedVec.empty.tryPush creator) .spaceDelegatesLimitExceeded
  insertDelegates identifier delegates
  insertAuthorization authorizationId
    { spaceId := identifier, delegate := creator, permissions := .all, delegator := creator }
  return (identifier, authorizationId)

def create (origin : T.Origin) (spaceCode : T.Hash) : CallM T Unit := do
  let creator ← ensureOrigin (T.ensureOrigin origin)
  let (identifier, authorizationId) ← anchorSpace spaceCode creator
  insertSpace identifier
    {
      code := spaceCode
      creator
      txnCapacity := 0
      txnReserve := 0
      txnCount := 0
      approved := !T.isPermissioned
      archive := false
      parent := identifier
    }
  updateActivity identifier .chainSpace .genesis
  depositEvent (.create identifier creator authorizationId)

def approve (origin : T.Origin) (spaceId : T.Ss58Identifier) (txnCapacity : UInt64)
    : CallM T Unit := do
  ensureOrigin (T.chainSpaceOrigin origin)
  let spaceDetails ← getSpace spaceId
  ensure (!spaceDetails.archive) .archivedSpace
  ensure (!spaceDetails.approved) .spaceAlreadyApproved
  insertSpace spaceId { spaceDetails with txnCapacity, approved := true }
  updateActivity spaceId .chainSpace .approved
  depositEvent (.approve spaceId)

def archive (origin : T.Origin) (spaceId authorization : T.Ss58Identifier) : CallM T Unit := do
  let creator ← ensureOrigin (T.ensureOrigin origin)
  let authSpaceId ← ensureAuthorizationAdminOrigin authorization creator
  ensure (authSpaceId = spaceId) .unauthorizedOperation
  let spaceDetails ← getSpace spaceId
  ensure (!spaceDetails.archive) .archivedSpace
  ensure spaceDetails.approved .spaceNotApproved
  insertSpace spaceId { spaceDetails with archive := true }
  updateActivity spaceId .chainSpace .archive
  depositEvent (.archive spaceId creator)

def restore (origin : T.Origin) (spaceId authorization : T.Ss58Identifier) : CallM T Unit := do
  let creator ← ensureOrigin (T.ensureOrigin origin)
  let authSpaceId ← ensureAuthorizationRestoreOrigin authorization creator
  ensure (authSpaceId = spaceId) .unauthorizedOperation
  let spaceDetails ← getSpace spaceId
  ensure spaceDetails.archive .spaceNotArchived
  ensure spaceDetails.approved .spaceNotApproved
  insertSpace spaceId { spaceDetails with archive := false }
  updateActivity spaceId .chainSpace .restore
  depositEvent (.restore spaceId creator)

def updateParentReserve (parent : T.Ss58Identifier)
    (parentDetails spaceDetails : SpaceDetails T) (newTxnCapacity : UInt64) : CallM T Unit := do
  ensure
    (parentDetails.txnCapacity
      ≥
     parentDetails.txnCount + parentDetails.txnReserve + newTxnCapacity - spaceDetails.txnCapacity)
    .capacityLessThanUsage
  insertSpace parent
    {
      parentDetails with
      txnReserve := parentDetails.txnReserve - spaceDetails.txnCapacity + newTxnCapacity
    }

def updateTransactionCapacity (origin : T.Origin) (spaceId : T.Ss58Identifier)
    (newTxnCapacity : UInt64) : CallM T Unit := do
  ensureOrigin (T.chainSpaceOrigin origin)
  let spaceDetails ← getSpace spaceId
  ensure (!spaceDetails.archive) .archivedSpace
  ensure spaceDetails.approved .spaceNotApproved
  ensure (newTxnCapacity ≥ spaceDetails.txnCount + spaceDetails.txnReserve) .capacityLessThanUsage
  if spaceId ≠ spaceDetails.parent then
    let parentDetails ← getSpace spaceDetails.parent
    updateParentReserve spaceDetails.parent parentDetails spaceDetails newTxnCapacity
  insertSpace spaceId { spaceDetails with txnCapacity := newTxnCapacity }
  updateActivity spaceId .chainSpace .capacity
  depositEvent (.updateCapacity spaceId)

def resetTransactionCount (origin : T.Origin) (spaceId : T.Ss58Identifier) : CallM T Unit := do
  let spaceDetails ← getSpace spaceId
  ensure (!spaceDetails.archive) .archivedSpace
  ensure spaceDetails.approved .spaceNotApproved
  if spaceId ≠ spaceDetails.parent then
    let creator ← ensureOrigin (T.ensureOrigin origin)
    let parentDetails ← getSpace spaceDetails.parent
    ensure (parentDetails.creator = creator) .unauthorizedOperation
  else
    ensureOrigin (T.chainSpaceOrigin origin)
  insertSpace spaceId { spaceDetails with txnCount := 0 }
  updateActivity spaceId .chainSpace .usage
  depositEvent (.resetUsage spaceId)

def approvalRevoke (origin : T.Origin) (spaceId : T.Ss58Identifier) : CallM T Unit := do
  ensureOrigin (T.chainSpaceOrigin origin)
  let spaceDetails ← getSpace spaceId
  ensure (!spaceDetails.archive) .archivedSpace
  ensure spaceDetails.approved .spaceNotApproved
  insertSpace spaceId { spaceDetails with approved := false }
  updateActivity spaceId .chainSpace .councilRevoke
  depositEvent (.approvalRevoke spaceId)

def approvalRestore (origin : T.Origin) (spaceId : T.Ss58Identifier) : CallM T Unit := do
  ensureOrigin (T.chainSpaceOrigin origin)
  let spaceDetails ← getSpace spaceId
  ensure (!spaceDetails.archive) .archivedSpace
  ensure (!spaceDetails.approved) .spaceAlreadyApproved
  insertSpace spaceId { spaceDetails with approved := true }
  updateActivity spaceId .chainSpace .councilRestore
  depositEvent (.approvalRestore spaceId)

def subspaceCapacity (T : Config) (count : Option UInt64) : Option UInt64 :=
  -- The capacity of a sub space may only be left out on a permissionless network.
  match count with
  | some value => some value
  | none => if T.isPermissioned then none else some 0

def subspaceCreate (origin : T.Origin) (spaceCode : T.Hash) (count : Option UInt64)
    (spaceId : T.Ss58Identifier) : CallM T Unit := do
  let creator ← ensureOrigin (T.ensureOrigin origin)
  let spaceDetails ← getSpace spaceId
  ensure (!spaceDetails.archive) .archivedSpace
  ensure spaceDetails.approved .spaceNotApproved
  ensure (spaceDetails.creator = creator) .unauthorizedOperation
  let count ← okOr (subspaceCapacity T count) .capacityValueMissing
  ensure
    (count ≤ spaceDetails.txnCapacity - (spaceDetails.txnCount + spaceDetails.txnReserve))
    .capacityLimitExceeded
  let (identifier, authorizationId) ← anchorSpace spaceCode creator
  insertSpace spaceId
    {
      spaceDetails with
      txnCount := spaceDetails.txnCount + 1
      txnReserve := spaceDetails.txnReserve + count
    }
  insertSpace identifier
    {
      code := spaceCode
      creator
      txnCapacity := count
      txnReserve := 0
      txnCount := 0
      approved := true
      archive := false
      parent := spaceId
    }
  updateActivity identifier .chainSpace .genesis
  depositEvent (.create identifier creator authorizationId)

def updateTransactionCapacitySub (origin : T.Origin) (spaceId : T.Ss58Identifier)
    (newTxnCapacity : UInt64) : CallM T Unit := do
  let creator ← ensureOrigin (T.ensureOrigin origin)
  let spaceDetails ← getSpace spaceId
  ensure (!spaceDetails.archive) .archivedSpace
  ensure spaceDetails.approved .spaceNotApproved
  ensure (newTxnCapacity ≥ spaceDetails.txnCount + spaceDetails.txnReserve) .capacityLessThanUsage
  ensure (spaceDetails.parent ≠ spaceId) .unauthorizedOperation
  let parentDetails ← getSpace spaceDetails.parent
  ensure (parentDetails.creator = creator) .unauthorizedOperation
  updateParentReserve spaceDetails.parent parentDetails spaceDetails newTxnCapacity
  insertSpace spaceId { spaceDetails with txnCapacity := newTxnCapacity }
  updateActivity spaceId .chainSpace .capacity
  depositEvent (.updateCapacity spaceId)

inductive Call (T : Config) where
  | addDelegate (spaceId : T.Ss58Identifier) (delegate : T.SpaceCreatorId)
      (authorization : T.Ss58Identifier)
  | addAdminDelegate (spaceId : T.Ss58Identifier) (delegate : T.SpaceCreatorId)
      (authorization : T.Ss58Identifier)
  | addDelegator (spaceId : T.Ss58Identifier) (delegate : T.SpaceCreatorId)
      (authorization : T.Ss58Identifier)
  | removeDelegate (spaceId removeAuthorization authorization : T.Ss58Identifier)
  | create (spaceCode : T.Hash)
  | approve (spaceId : T.Ss58Identifier) (txnCapacity : UInt64)
  | archive (spaceId authorization : T.Ss58Identifier)
  | restore (spaceId authorization : T.Ss58Identifier)
  | updateTransactionCapacity (spaceId : T.Ss58Identifier) (newTxnCapacity : UInt64)
  | resetTransactionCount (spaceId : T.Ss58Identifier)
  | approvalRevoke (spaceId : T.Ss58Identifier)
  | approvalRestore (spaceId : T.Ss58Identifier)
  | subspaceCreate (spaceCode : T.Hash) (count : Option UInt64) (spaceId : T.Ss58Identifier)
  | updateTransactionCapacitySub (spaceId : T.Ss58Identifier) (newTxnCapacity : UInt64)

def Call.dispatch (call : Call T) (origin : T.Origin) : CallM T Unit :=
  match call with
  | .addDelegate spaceId delegate authorization =>
    ChainSpace.addDelegate origin spaceId delegate authorization
  | .addAdminDelegate spaceId delegate authorization =>
    ChainSpace.addAdminDelegate origin spaceId delegate authorization
  | .addDelegator spaceId delegate authorization =>
    ChainSpace.addDelegator origin spaceId delegate authorization
  | .removeDelegate spaceId removeAuthorization authorization =>
    ChainSpace.removeDelegate origin spaceId removeAuthorization authorization
  | .create spaceCode => ChainSpace.create origin spaceCode
  | .approve spaceId txnCapacity => ChainSpace.approve origin spaceId txnCapacity
  | .archive spaceId authorization => ChainSpace.archive origin spaceId authorization
  | .restore spaceId authorization => ChainSpace.restore origin spaceId authorization
  | .updateTransactionCapacity spaceId newTxnCapacity =>
    ChainSpace.updateTransactionCapacity origin spaceId newTxnCapacity
  | .resetTransactionCount spaceId => ChainSpace.resetTransactionCount origin spaceId
  | .approvalRevoke spaceId => ChainSpace.approvalRevoke origin spaceId
  | .approvalRestore spaceId => ChainSpace.approvalRestore origin spaceId
  | .subspaceCreate spaceCode count spaceId =>
    ChainSpace.subspaceCreate origin spaceCode count spaceId
  | .updateTransactionCapacitySub spaceId newTxnCapacity =>
    ChainSpace.updateTransactionCapacitySub origin spaceId newTxnCapacity

structure Extrinsic (T : Config) where
  origin : T.Origin
  timepoint : Timepoint
  call : Call T

def Extrinsic.dispatch (ext : Extrinsic T) : CallM T Unit := do
  modify fun s => { s with timepoint := ext.timepoint }
  ext.call.dispatch ext.origin

def machine (T : Config) : Machine (State T) Error (Extrinsic T) where
  dispatch := Extrinsic.dispatch

section Plain

def plainSpace (code x : UInt8) : List UInt8 := [0, code, x]

def plainAuthorization (space : List UInt8) (delegate creator : UInt8) : List UInt8 :=
  1 :: (space ++ [delegate, creator])

def plainExtrinsic (origin : Option UInt8) (call : Call .plain) : Extrinsic .plain where
  origin
  timepoint := ⟨1, 0⟩
  call

end Plain

end ChainSpace
