import Cord.Frame.Arith
import Cord.ChainSpace.Impl.Basic

/-!
This module contains the part of the chain space pallet that other pallets call as well: checking
that a space can take a transaction, counting its usage and checking the authorization of a
delegate.
-/

open Frame Identifier

namespace ChainSpace

variable {T : Config}

def validateSpaceForTransaction (spaceId : T.Ss58Identifier) : CallM T Unit := do
  let spaceDetails ← getSpace spaceId
  ensure (!spaceDetails.archive) .archivedSpace
  ensure spaceDetails.approved .spaceNotApproved
  ensure (spaceDetails.txnCapacity = 0 ∨ spaceDetails.txnCount < spaceDetails.txnCapacity)
    .capacityLimitExceeded

def validateSpaceForRestoreTransaction (spaceId : T.Ss58Identifier) : CallM T Unit := do
  let spaceDetails ← getSpace spaceId
  ensure spaceDetails.archive .spaceNotArchived
  ensure spaceDetails.approved .spaceNotApproved
  ensure (spaceDetails.txnCapacity = 0 ∨ spaceDetails.txnCount < spaceDetails.txnCapacity)
    .capacityLimitExceeded

def validateSpaceForTransactionEntries (spaceId : T.Ss58Identifier) (entries : UInt16)
    : CallM T Unit := do
  let spaceDetails ← getSpace spaceId
  ensure (!spaceDetails.archive) .archivedSpace
  ensure spaceDetails.approved .spaceNotApproved
  let newUsage ← okOr (checkedAdd spaceDetails.txnCount entries.toUInt64) .typeCapacityOverflow
  ensure (spaceDetails.txnCapacity = 0 ∨ newUsage ≤ spaceDetails.txnCapacity)
    .capacityLimitExceeded

def mutateUsage (txId : T.Ss58Identifier) (f : UInt64 → UInt64) : CallM T Unit := do
  let spaceDetails ← getSpace txId
  insertSpace txId { spaceDetails with txnCount := f spaceDetails.txnCount }

def incrementUsage (txId : T.Ss58Identifier) : CallM T Unit :=
  mutateUsage txId fun count => saturatingAdd count 1

def decrementUsage (txId : T.Ss58Identifier) : CallM T Unit :=
  mutateUsage txId fun count => saturatingSub count 1

def incrementUsageEntries (txId : T.Ss58Identifier) (increment : UInt16) : CallM T Unit :=
  mutateUsage txId fun count => saturatingAdd count increment.toUInt64

def decrementUsageEntries (txId : T.Ss58Identifier) (decrement : UInt16) : CallM T Unit :=
  mutateUsage txId fun count => saturatingSub count decrement.toUInt64

def ensureAuthorization (validate : T.Ss58Identifier → CallM T Unit) (required : Permissions)
    (authorizationId : T.Ss58Identifier) (delegate : T.SpaceCreatorId)
    : CallM T T.Ss58Identifier := do
  -- The check that all but one of the `ensure_authorization_*` functions perform. The
  -- transaction is counted before the space is validated, so the validation looks at the usage
  -- that includes it.
  let d ← okOr ((← get).authorizations.get authorizationId) .authorizationNotFound
  ensure (d.delegate = delegate) .unauthorizedOperation
  incrementUsage d.spaceId
  validate d.spaceId
  ensure (d.permissions.contains required) .unauthorizedOperation
  return d.spaceId

def ensureAuthorizationOrigin (authorizationId : T.Ss58Identifier) (delegate : T.SpaceCreatorId)
    : CallM T T.Ss58Identifier :=
  ensureAuthorization validateSpaceForTransaction .assert authorizationId delegate

def ensureAuthorizationRestoreOrigin (authorizationId : T.Ss58Identifier)
    (delegate : T.SpaceCreatorId) : CallM T T.Ss58Identifier :=
  ensureAuthorization validateSpaceForRestoreTransaction .assert authorizationId delegate

def ensureAuthorizationAdminOrigin (authorizationId : T.Ss58Identifier)
    (delegate : T.SpaceCreatorId) : CallM T T.Ss58Identifier :=
  ensureAuthorization validateSpaceForTransaction .admin authorizationId delegate

def ensureAuthorizationDelegatorOrigin (authorizationId : T.Ss58Identifier)
    (delegate : T.SpaceCreatorId) : CallM T T.Ss58Identifier :=
  ensureAuthorization validateSpaceForTransaction (Permissions.union .delegate .admin)
    authorizationId delegate

def ensureAuthorizationAdminRemoveOrigin (authorizationId : T.Ss58Identifier)
    (delegate : T.SpaceCreatorId) : CallM T T.Ss58Identifier := do
  -- A removal is not counted as a transaction.
  let d ← okOr ((← get).authorizations.get authorizationId) .authorizationNotFound
  ensure (d.delegate = delegate) .unauthorizedOperation
  validateSpaceForTransaction d.spaceId
  ensure (d.permissions.contains .admin) .unauthorizedOperation
  return d.spaceId

def isADelegate (s : State T) (txId : T.Ss58Identifier) (delegate : T.SpaceCreatorId) : Bool :=
  (s.delegatesOf txId).toList.any fun d => d = delegate

end ChainSpace
