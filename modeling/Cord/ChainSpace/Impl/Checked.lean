import Cord.ChainSpace.Impl.Calls
import Cord.Frame.Checked

/-!
This module contains the calls that compute with capacities as they are when they are compiled with
overflow checks. The release profiles do not enable these, there the operations wrap around. All other
parts of the calls are those of the calls without the checks.
-/

open Frame Identifier

namespace ChainSpace

variable {T : Config}

namespace Checked

abbrev CallM (T : Config) := CheckedM (State T) Error

def updateParentReserve (parent : T.Ss58Identifier) (parentDetails spaceDetails : SpaceDetails T)
    (newTxnCapacity : UInt64) : CallM T Unit := do
  let usage ← addChecked parentDetails.txnCount parentDetails.txnReserve
  let newUsage ← addChecked usage newTxnCapacity
  let newUsage ← subChecked newUsage spaceDetails.txnCapacity
  liftChecked (ensure (parentDetails.txnCapacity ≥ newUsage) .capacityLessThanUsage)
  let reserve ← subChecked parentDetails.txnReserve spaceDetails.txnCapacity
  let txnReserve ← addChecked reserve newTxnCapacity
  liftChecked (insertSpace parent { parentDetails with txnReserve })

def updateTransactionCapacity (origin : T.Origin) (spaceId : T.Ss58Identifier)
    (newTxnCapacity : UInt64) : CallM T Unit := do
  liftChecked (ensureOrigin (T.chainSpaceOrigin origin))
  let spaceDetails ← liftChecked (getSpace spaceId)
  liftChecked (ensure (!spaceDetails.archive) .archivedSpace)
  liftChecked (ensure spaceDetails.approved .spaceNotApproved)
  let usage ← addChecked spaceDetails.txnCount spaceDetails.txnReserve
  liftChecked (ensure (newTxnCapacity ≥ usage) .capacityLessThanUsage)
  if spaceId ≠ spaceDetails.parent then
    let parentDetails ← liftChecked (getSpace spaceDetails.parent)
    updateParentReserve spaceDetails.parent parentDetails spaceDetails newTxnCapacity
  liftChecked do
    insertSpace spaceId { spaceDetails with txnCapacity := newTxnCapacity }
    updateActivity spaceId .chainSpace .capacity
    depositEvent (.updateCapacity spaceId)

def updateTransactionCapacitySub (origin : T.Origin) (spaceId : T.Ss58Identifier)
    (newTxnCapacity : UInt64) : CallM T Unit := do
  let creator ← liftChecked (ensureOrigin (T.ensureOrigin origin))
  let spaceDetails ← liftChecked (getSpace spaceId)
  liftChecked (ensure (!spaceDetails.archive) .archivedSpace)
  liftChecked (ensure spaceDetails.approved .spaceNotApproved)
  let usage ← addChecked spaceDetails.txnCount spaceDetails.txnReserve
  liftChecked (ensure (newTxnCapacity ≥ usage) .capacityLessThanUsage)
  liftChecked (ensure (spaceDetails.parent ≠ spaceId) .unauthorizedOperation)
  let parentDetails ← liftChecked (getSpace spaceDetails.parent)
  liftChecked (ensure (parentDetails.creator = creator) .unauthorizedOperation)
  updateParentReserve spaceDetails.parent parentDetails spaceDetails newTxnCapacity
  liftChecked do
    insertSpace spaceId { spaceDetails with txnCapacity := newTxnCapacity }
    updateActivity spaceId .chainSpace .capacity
    depositEvent (.updateCapacity spaceId)

def subspaceCreate (origin : T.Origin) (spaceCode : T.Hash) (count : Option UInt64)
    (spaceId : T.Ss58Identifier) : CallM T Unit := do
  let creator ← liftChecked (ensureOrigin (T.ensureOrigin origin))
  let spaceDetails ← liftChecked (getSpace spaceId)
  liftChecked (ensure (!spaceDetails.archive) .archivedSpace)
  liftChecked (ensure spaceDetails.approved .spaceNotApproved)
  liftChecked (ensure (spaceDetails.creator = creator) .unauthorizedOperation)
  let count ← liftChecked (okOr (subspaceCapacity T count) .capacityValueMissing)
  let usage ← addChecked spaceDetails.txnCount spaceDetails.txnReserve
  let left ← subChecked spaceDetails.txnCapacity usage
  liftChecked (ensure (count ≤ left) .capacityLimitExceeded)
  let (identifier, authorizationId) ← liftChecked (anchorSpace spaceCode creator)
  let txnCount ← addChecked spaceDetails.txnCount 1
  let txnReserve ← addChecked spaceDetails.txnReserve count
  liftChecked do
    insertSpace spaceId { spaceDetails with txnCount, txnReserve }
    insertSpace identifier
      {
        code := spaceCode
        creator
        txnCapacity := count
        txnReserve := 0
        txnCount := 0
        approved := true
        archive := false
        parent := spaceId
      }
    updateActivity identifier .chainSpace .genesis
    depositEvent (.create identifier creator authorizationId)

end Checked

def Call.dispatchChecked (call : Call T) (origin : T.Origin) : Checked.CallM T Unit :=
  match call with
  | .updateTransactionCapacity spaceId newTxnCapacity =>
    Checked.updateTransactionCapacity origin spaceId newTxnCapacity
  | .updateTransactionCapacitySub spaceId newTxnCapacity =>
    Checked.updateTransactionCapacitySub origin spaceId newTxnCapacity
  | .subspaceCreate spaceCode count spaceId =>
    Checked.subspaceCreate origin spaceCode count spaceId
  | call => liftChecked (call.dispatch origin)

end ChainSpace
